/-!
# Finite maps in ascending order of their keys

A map is the list of its entries with strictly ascending keys.  Looking up a key after an
insertion gives the inserted value for that key and the old answer for every other one
(`get?_insert`), so of several insertions the last one for a key counts (`get?_foldl_insert`); two maps
with the same answers are equal (`ext`).
-/

namespace ApiDoc

/-- A finite map, kept as the list of its entries in strictly ascending order of the keys. -/
structure OrderedMap (α β : Type) [Ord α] where
  entries : List (α × β)
  ascending : entries.Pairwise fun a b => compare a.1 b.1 = .lt
deriving DecidableEq

namespace OrderedMap

/-! ## Operations -/

/-- Puts an entry at its place, instead of an entry with the same key. -/
def insertEntry {α β : Type} [Ord α] (k : α) (v : β) : List (α × β) → List (α × β)
  | [] => [(k, v)]
  | e :: r =>
    match compare k e.1 with
    | .lt => (k, v) :: e :: r
    | .eq => (k, v) :: r
    | .gt => e :: insertEntry k v r

/-- The value of the first entry with key `k`. -/
def lookup? {α β : Type} [Ord α] (k : α) : List (α × β) → Option β
  | [] => none
  | e :: r => if compare k e.1 = .eq then some e.2 else lookup? k r

section
variable {α β : Type} [Ord α]

/-- The map without entries. -/
def empty : OrderedMap α β := ⟨[], .nil⟩

instance : EmptyCollection (OrderedMap α β) := ⟨empty⟩

instance : Inhabited (OrderedMap α β) := ⟨empty⟩

/-- The value of a key, if it has one. -/
def get? (m : OrderedMap α β) (k : α) : Option β := lookup? k m.entries

/-- Whether a key has a value. -/
def contains (m : OrderedMap α β) (k : α) : Bool := (m.get? k).isSome

/-- The keys in ascending order. -/
def keys (m : OrderedMap α β) : List α := m.entries.map (·.1)

/-- The values in ascending order of their keys. -/
def values (m : OrderedMap α β) : List β := m.entries.map (·.2)

/-- The number of keys. -/
def size (m : OrderedMap α β) : Nat := m.entries.length

/-- Whether there is no key. -/
def isEmpty (m : OrderedMap α β) : Bool := m.entries.isEmpty

@[simp] theorem get?_empty {k : α} : (empty : OrderedMap α β).get? k = none := rfl

theorem lookup?_append {k : α} {l m : List (α × β)} :
    lookup? k (l ++ m) = (lookup? k l).or (lookup? k m) := by
  induction l with
  | nil => rfl
  | cons e r ih =>
    rw [List.cons_append, lookup?, lookup?]
    split
    · rfl
    · exact ih

end

theorem mem_insertEntry {α β : Type} [Ord α] {k : α} {v : β} {e : α × β} {l : List (α × β)}
    (h : e ∈ insertEntry k v l) : e = (k, v) ∨ e ∈ l := by
  induction l with
  | nil => simpa [insertEntry] using h
  | cons y r ih =>
    unfold insertEntry at h
    split at h
    · simpa using h
    · rcases List.mem_cons.mp h with h | h
      · exact .inl h
      · exact .inr (List.mem_cons_of_mem _ h)
    · rcases List.mem_cons.mp h with h | h
      · exact .inr (h ▸ List.mem_cons_self)
      · rcases ih h with h | h
        · exact .inl h
        · exact .inr (List.mem_cons_of_mem _ h)

section
variable {α β : Type} [Ord α] [Std.TransOrd α] [Std.LawfulEqOrd α]

theorem pairwise_insertEntry {k : α} {v : β} {l : List (α × β)}
    (h : l.Pairwise fun a b => compare a.1 b.1 = .lt) :
    (insertEntry k v l).Pairwise fun a b => compare a.1 b.1 = .lt := by
  induction l with
  | nil => simp [insertEntry]
  | cons y r ih =>
    obtain ⟨hy, hr⟩ := List.pairwise_cons.mp h
    unfold insertEntry
    split
    · next hk =>
      refine List.pairwise_cons.mpr ⟨fun a ha => ?_, h⟩
      rcases List.mem_cons.mp ha with rfl | ha
      · exact hk
      · exact Std.TransCmp.lt_trans hk (hy a ha)
    · next hk =>
      have e := Std.LawfulEqCmp.eq_of_compare hk
      subst e
      exact List.pairwise_cons.mpr ⟨hy, hr⟩
    · next hk =>
      refine List.pairwise_cons.mpr ⟨fun a ha => ?_, ih hr⟩
      rcases mem_insertEntry ha with rfl | ha
      · exact Std.OrientedCmp.lt_of_gt hk
      · exact hy a ha

/-- Gives a key a value, instead of the one it has. -/
def insert (m : OrderedMap α β) (k : α) (v : β) : OrderedMap α β :=
  ⟨insertEntry k v m.entries, pairwise_insertEntry m.ascending⟩

/-- The map of a list of entries; of two with one key the later one counts. -/
def ofList (l : List (α × β)) : OrderedMap α β := l.foldl (fun m e => m.insert e.1 e.2) empty

/-! ## Lemmas -/

theorem lookup?_insertEntry {α β : Type} [Ord α] [Std.LawfulEqOrd α] {k q : α} {v : β} {l : List (α × β)} :
    lookup? q (insertEntry k v l) = if compare q k = .eq then some v else lookup? q l := by
  induction l with
  | nil => rfl
  | cons y r ih =>
    unfold insertEntry
    split
    · rfl
    · next hk =>
      have e := Std.LawfulEqCmp.eq_of_compare hk
      by_cases hq : compare q k = .eq
      · simp [lookup?, hq]
      · simp [lookup?, hq, ← e]
    · next hk =>
      by_cases hq : compare q k = .eq
      · have e := Std.LawfulEqCmp.eq_of_compare hq
        have hy : compare q y.1 ≠ .eq := by rw [e, hk]; exact Ordering.noConfusion
        simp [lookup?, hq, hy, ih]
      · simp [lookup?, hq, ih]

@[simp] theorem get?_insert {m : OrderedMap α β} {k q : α} {v : β} :
    (m.insert k v).get? q = if compare q k = .eq then some v else m.get? q :=
  lookup?_insertEntry

theorem lookup?_eq_some {α β : Type} [Ord α] [Std.LawfulEqOrd α] {k : α} {v : β} {l : List (α × β)}
    (h : l.Pairwise fun a b => compare a.1 b.1 = .lt) : lookup? k l = some v ↔ (k, v) ∈ l := by
  induction l with
  | nil => simp [lookup?]
  | cons y r ih =>
    obtain ⟨hy, hr⟩ := List.pairwise_cons.mp h
    unfold lookup?
    split
    · next hk =>
      have e := Std.LawfulEqCmp.eq_of_compare hk
      subst e
      constructor
      · intro hv
        cases hv
        exact List.mem_cons_self
      · intro hv
        rcases List.mem_cons.mp hv with e | e
        · rw [← e]
        · have hlt := hy _ e
          rw [hk] at hlt
          cases hlt
    · next hk =>
      rw [ih hr, List.mem_cons]
      constructor
      · exact .inr
      · rintro (e | e)
        · rw [← e] at hk
          exact absurd Std.ReflCmp.compare_self hk
        · exact e

/-- The answers of a map are its entries. -/
theorem get?_eq_some_iff {α β : Type} [Ord α] [Std.LawfulEqOrd α] {m : OrderedMap α β} {k : α} {v : β} :
    m.get? k = some v ↔ (k, v) ∈ m.entries :=
  lookup?_eq_some m.ascending

theorem mem_keys_iff {α β : Type} [Ord α] [Std.LawfulEqOrd α] {m : OrderedMap α β} {k : α} :
    k ∈ m.keys ↔ ∃ v, m.get? k = some v := by
  unfold keys
  simp only [List.mem_map, get?_eq_some_iff]
  constructor
  · rintro ⟨⟨_, v⟩, he, rfl⟩
    exact ⟨v, he⟩
  · rintro ⟨v, he⟩
    exact ⟨(k, v), he, rfl⟩

/-- Ascending keys are different, so the order of the entries does not count. -/
theorem lookup?_reverse {α β : Type} [Ord α] [Std.LawfulEqOrd α] {k : α} {l : List (α × β)}
    (h : l.Pairwise fun a b => compare a.1 b.1 = .lt) : lookup? k l.reverse = lookup? k l := by
  induction l with
  | nil => rfl
  | cons e r ih =>
    obtain ⟨he, hr⟩ := List.pairwise_cons.mp h
    rw [List.reverse_cons, lookup?_append, ih hr]
    by_cases hk : compare k e.1 = .eq
    · have hnone : lookup? k r = none := by
        refine Option.eq_none_iff_forall_ne_some.mpr fun v hv => ?_
        have hlt := he _ ((lookup?_eq_some hr).mp hv)
        rw [← Std.LawfulEqCmp.eq_of_compare hk] at hlt
        exact absurd (Std.ReflCmp.compare_self.symm.trans hlt) Ordering.noConfusion
      simp [lookup?, hk, hnone]
    · simp [lookup?, hk]

/-- Of the entries that are inserted one after the other the last one with a key counts. -/
theorem get?_foldl_insert {k : α} {l : List (α × β)} {m : OrderedMap α β} :
    (l.foldl (fun m e => m.insert e.1 e.2) m).get? k = (lookup? k l.reverse).or (m.get? k) := by
  induction l generalizing m with
  | nil => rfl
  | cons e r ih =>
    rw [List.foldl_cons, ih, get?_insert, List.reverse_cons, lookup?_append, Option.or_assoc]
    congr 1
    rw [lookup?]
    split
    · rfl
    · rfl

/-- Ascending lists of entries with the same members are equal. -/
theorem eq_of_pairwise : ∀ {l m : List (α × β)},
    (l.Pairwise fun a b => compare a.1 b.1 = .lt) →
    (m.Pairwise fun a b => compare a.1 b.1 = .lt) → (∀ e, e ∈ l ↔ e ∈ m) → l = m
  | [], [], _, _, _ => rfl
  | [], b :: m, _, _, h => absurd ((h b).mpr List.mem_cons_self) List.not_mem_nil
  | a :: l, [], _, _, h => absurd ((h a).mp List.mem_cons_self) List.not_mem_nil
  | a :: l, b :: m, hl, hm, h => by
    obtain ⟨ha, hl'⟩ := List.pairwise_cons.mp hl
    obtain ⟨hb, hm'⟩ := List.pairwise_cons.mp hm
    have irrefl : ∀ x : α × β, compare x.1 x.1 ≠ .lt := fun x hx => by
      have : compare x.1 x.1 = .eq := Std.ReflCmp.compare_self
      rw [this] at hx
      cases hx
    have hab : a = b := by
      rcases List.mem_cons.mp ((h a).mp List.mem_cons_self) with e | e
      · exact e
      rcases List.mem_cons.mp ((h b).mpr List.mem_cons_self) with f | f
      · exact f.symm
      exact absurd (Std.TransCmp.lt_trans (ha b f) (hb a e)) (irrefl a)
    subst hab
    refine congrArg (a :: ·) (eq_of_pairwise hl' hm' fun x => ?_)
    constructor
    · intro hx
      rcases List.mem_cons.mp ((h x).mp (List.mem_cons_of_mem _ hx)) with e | e
      · subst e; exact absurd (ha _ hx) (irrefl _)
      · exact e
    · intro hx
      rcases List.mem_cons.mp ((h x).mpr (List.mem_cons_of_mem _ hx)) with e | e
      · subst e; exact absurd (hb _ hx) (irrefl _)
      · exact e

@[ext] theorem ext {m n : OrderedMap α β} (h : ∀ k, m.get? k = n.get? k) : m = n := by
  obtain ⟨l, hl⟩ := m
  obtain ⟨r, hr⟩ := n
  have e : l = r := eq_of_pairwise hl hr fun e => by
    rw [← lookup?_eq_some hl, ← lookup?_eq_some hr]
    exact iff_of_eq (congrArg (· = some e.2) (h e.1))
  subst e
  rfl

end

end OrderedMap

end ApiDoc
