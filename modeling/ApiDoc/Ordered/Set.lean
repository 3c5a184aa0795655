/-!
# Finite sets in ascending order

A set is the ascending list of its members, so two sets with the same members are equal (`ext`)
and the order of a listing does not depend on how the set came about.
-/

namespace ApiDoc

/-- A finite set, kept as the strictly ascending list of its members. -/
structure OrderedSet (α : Type) [Ord α] where
  toList : List α
  ascending : toList.Pairwise fun a b => compare a b = .lt
deriving DecidableEq

namespace OrderedSet

/-! ## Operations -/

/-- Puts `x` at its place in an ascending list, unless it is there already. -/
def insertList {α : Type} [Ord α] (x : α) : List α → List α
  | [] => [x]
  | y :: r =>
    match compare x y with
    | .lt => x :: y :: r
    | .eq => y :: r
    | .gt => y :: insertList x r

instance {α : Type} [Ord α] : Membership α (OrderedSet α) := ⟨fun s a => a ∈ s.toList⟩

theorem mem_def {α : Type} [Ord α] {s : OrderedSet α} {a : α} : a ∈ s ↔ a ∈ s.toList := Iff.rfl

/-- The set without members. -/
def empty {α : Type} [Ord α] : OrderedSet α := ⟨[], .nil⟩

instance {α : Type} [Ord α] : EmptyCollection (OrderedSet α) := ⟨empty⟩

@[simp] theorem not_mem_empty {α : Type} [Ord α] {a : α} : a ∉ (∅ : OrderedSet α) :=
  List.not_mem_nil

theorem mem_insertList {α : Type} [Ord α] [Std.LawfulEqOrd α] {x z : α} {l : List α} : z ∈ insertList x l ↔ z = x ∨ z ∈ l := by
  induction l with
  | nil => simp [insertList]
  | cons y r ih =>
    unfold insertList
    split
    · simp
    · next h =>
      have e := Std.LawfulEqCmp.eq_of_compare h
      subst e
      simp
    · simp only [List.mem_cons, ih]
      grind

section
variable {α : Type} [Ord α] [Std.TransOrd α] [Std.LawfulEqOrd α]

theorem pairwise_insertList {x : α} {l : List α}
    (h : l.Pairwise fun a b => compare a b = .lt) :
    (insertList x l).Pairwise fun a b => compare a b = .lt := by
  induction l with
  | nil => simp [insertList]
  | cons y r ih =>
    obtain ⟨hy, hr⟩ := List.pairwise_cons.mp h
    unfold insertList
    split
    · next hxy =>
      refine List.pairwise_cons.mpr ⟨fun a ha => ?_, h⟩
      rcases List.mem_cons.mp ha with rfl | ha
      · exact hxy
      · exact Std.TransCmp.lt_trans hxy (hy a ha)
    · exact h
    · next hxy =>
      refine List.pairwise_cons.mpr ⟨fun a ha => ?_, ih hr⟩
      rcases mem_insertList.mp ha with rfl | ha
      · exact Std.OrientedCmp.lt_of_gt hxy
      · exact hy a ha

/-- The set with one more member. -/
def insert (s : OrderedSet α) (x : α) : OrderedSet α :=
  ⟨insertList x s.toList, pairwise_insertList s.ascending⟩

/-- The set with the members of a list added. -/
def insertMany (s : OrderedSet α) (l : List α) : OrderedSet α := l.foldl insert s

/-- The set of the members of a list. -/
def ofList (l : List α) : OrderedSet α := insertMany empty l

/-- The members of both sets. -/
def union (s t : OrderedSet α) : OrderedSet α := s.insertMany t.toList

instance : Union (OrderedSet α) := ⟨union⟩

/-! ## Lemmas -/

@[simp] theorem mem_insert {s : OrderedSet α} {a x : α} : a ∈ s.insert x ↔ a = x ∨ a ∈ s :=
  mem_insertList

@[simp] theorem mem_insertMany {s : OrderedSet α} {l : List α} {a : α} :
    a ∈ s.insertMany l ↔ a ∈ s ∨ a ∈ l := by
  induction l generalizing s with
  | nil => simp [insertMany]
  | cons x r ih =>
    rw [insertMany, List.foldl_cons, ← insertMany, ih, mem_insert, List.mem_cons]
    grind

@[simp] theorem mem_ofList {l : List α} {a : α} : a ∈ ofList l ↔ a ∈ l := by
  have h : a ∉ (empty : OrderedSet α) := List.not_mem_nil
  simp [ofList, h]

@[simp] theorem mem_union {s t : OrderedSet α} {a : α} : a ∈ s ∪ t ↔ a ∈ s ∨ a ∈ t :=
  mem_insertMany

theorem nodup_toList {α : Type} [Ord α] [Std.LawfulEqOrd α] (s : OrderedSet α) : s.toList.Nodup := by
  refine s.ascending.imp fun {a b} h e => ?_
  have : compare b b = .eq := Std.ReflCmp.compare_self
  rw [e, this] at h
  cases h

/-- Two ascending lists with the same members are equal. -/
theorem eq_of_pairwise : ∀ {l m : List α}, (l.Pairwise fun a b => compare a b = .lt) →
    (m.Pairwise fun a b => compare a b = .lt) → (∀ a, a ∈ l ↔ a ∈ m) → l = m
  | [], [], _, _, _ => rfl
  | [], b :: m, _, _, h => absurd ((h b).mpr List.mem_cons_self) List.not_mem_nil
  | a :: l, [], _, _, h => absurd ((h a).mp List.mem_cons_self) List.not_mem_nil
  | a :: l, b :: m, hl, hm, h => by
    obtain ⟨ha, hl'⟩ := List.pairwise_cons.mp hl
    obtain ⟨hb, hm'⟩ := List.pairwise_cons.mp hm
    have irrefl : ∀ x : α, compare x x ≠ .lt := fun x hx => by
      have : compare x x = .eq := Std.ReflCmp.compare_self
      rw [this] at hx
      cases hx
    have hab : a = b := by
      rcases List.mem_cons.mp ((h a).mp List.mem_cons_self) with e | e
      · exact e
      rcases List.mem_cons.mp ((h b).mpr List.mem_cons_self) with f | f
      · exact f.symm
      exact absurd (Std.TransCmp.lt_trans (ha b f) (hb a e)) (irrefl a)
    subst hab
    refine congrArg (a :: ·) (eq_of_pairwise hl' hm' fun x => ?_)
    constructor
    · intro hx
      rcases List.mem_cons.mp ((h x).mp (List.mem_cons_of_mem _ hx)) with e | e
      · subst e; exact absurd (ha _ hx) (irrefl _)
      · exact e
    · intro hx
      rcases List.mem_cons.mp ((h x).mpr (List.mem_cons_of_mem _ hx)) with e | e
      · subst e; exact absurd (hb _ hx) (irrefl _)
      · exact e

@[ext] theorem ext {s t : OrderedSet α} (h : ∀ a, a ∈ s ↔ a ∈ t) : s = t := by
  obtain ⟨l, hl⟩ := s
  obtain ⟨m, hm⟩ := t
  have e : l = m := eq_of_pairwise hl hm h
  subst e
  rfl

end

end OrderedSet

end ApiDoc
