import ApiDoc.Absorb

/-!
# Laws of absorption

An absorption is lawful for a key when two items are the same exactly if their keys agree, a joined
entry keeps its key, and joining does not depend on grouping.  Of a lawful absorption:

* absorbing a list into nothing leaves one entry for each key, in the order in which the keys first
  occur (`map_key_addAll_nil`);
* the entry of a key is the join of all items with that key, from the first on
  (`filter_of_mem_addAll_nil`);
* lists may be absorbed in any grouping (`addAll_assoc`).
-/

namespace ApiDoc

namespace Absorption

/-- Items are the same when their keys agree, and joining keeps the key of the entry. -/
structure Lawful {α κ : Type} (b : Absorption α) (key : α → κ) : Prop where
  same_iff : ∀ x y, b.same x y = true ↔ key x = key y
  key_join : ∀ x y, key (b.join x y) = key x
  join_assoc : ∀ x y z, b.join (b.join x y) z = b.join x (b.join y z)

/-- What holds of the items and is kept by joining holds of the entries. -/
theorem forall_mem_addAll {α : Type} {b : Absorption α} {P : α → Prop}
    (hj : ∀ x y, P x → P (b.join x y)) {l items : List α} (hl : ∀ x ∈ l, P x)
    (hi : ∀ x ∈ items, P x) : ∀ x ∈ b.addAll l items, P x := by
  have step : ∀ (x : α) (l : List α), P x → (∀ y ∈ l, P y) → ∀ y ∈ b.add x l, P y := by
    intro x l hx hl
    induction l with
    | nil =>
      intro y hy
      rw [List.mem_singleton.mp hy]
      exact hx
    | cons z r ih =>
      rw [List.forall_mem_cons] at hl
      unfold add
      split
      · exact List.forall_mem_cons.mpr ⟨hj z x hl.1, hl.2⟩
      · exact List.forall_mem_cons.mpr ⟨hl.1, ih hl.2⟩
  induction items generalizing l with
  | nil => exact hl
  | cons x r ih =>
    rw [List.forall_mem_cons] at hi
    exact ih (step x l hi.1 hl) hi.2

/-- A union is an absorption by what is combined already. -/
theorem addAll_nil_append_of_eq {α : Type} {b : Absorption α} {l m : List α}
    (hl : b.addAll [] l = l) : b.addAll [] (l ++ m) = b.addAll l m := by
  rw [addAll_append, hl]

section
variable {α κ : Type} {b : Absorption α} {key : α → κ} (hb : b.Lawful key)
include hb

theorem same_eq_false {x y : α} (h : key x ≠ key y) : b.same x y = false := by
  rw [Bool.eq_false_iff]
  exact fun hs => h ((hb.same_iff x y).mp hs)

theorem add_cons_of_eq {x y : α} (l : List α) (h : key y = key x) :
    b.add x (y :: l) = b.join y x :: l := by
  rw [add, if_pos ((hb.same_iff y x).mpr h)]

theorem add_cons_of_ne {x y : α} (l : List α) (h : key y ≠ key x) :
    b.add x (y :: l) = y :: b.add x l := by
  rw [add, same_eq_false hb h, if_neg Bool.false_ne_true]

/-! ## Keys -/

/-- An item with the key of an entry leaves the keys as they are. -/
theorem map_key_add_of_mem {x : α} {l : List α} (h : key x ∈ l.map key) :
    (b.add x l).map key = l.map key := by
  induction l with
  | nil => exact absurd h List.not_mem_nil
  | cons y r ih =>
    by_cases hy : key y = key x
    · rw [add_cons_of_eq hb r hy, List.map_cons, List.map_cons, hb.key_join]
    · rw [List.map_cons] at h
      have hr : key x ∈ r.map key := List.mem_of_ne_of_mem (Ne.symm hy) h
      rw [add_cons_of_ne hb r hy, List.map_cons, List.map_cons, ih hr]

/-- An item with a new key goes to the end. -/
theorem add_of_not_mem {x : α} {l : List α} (h : key x ∉ l.map key) : b.add x l = l ++ [x] := by
  apply add_eq_append
  intro y hy
  apply same_eq_false hb
  intro e
  exact h (e ▸ List.mem_map_of_mem hy)

theorem nodup_add {x : α} {l : List α} (h : (l.map key).Nodup) : ((b.add x l).map key).Nodup := by
  by_cases hx : key x ∈ l.map key
  · rw [map_key_add_of_mem hb hx]
    exact h
  · rw [add_of_not_mem hb hx, List.map_append, List.nodup_append]
    refine ⟨h, by simp, ?_⟩
    intro k hk k' hk' e
    rw [List.map_singleton, List.mem_singleton] at hk'
    rw [e, hk'] at hk
    exact hx hk

/-- Entries with different keys stay so. -/
theorem nodup_addAll {l : List α} (items : List α) (h : (l.map key).Nodup) :
    ((b.addAll l items).map key).Nodup := by
  induction items generalizing l with
  | nil => exact h
  | cons x r ih => exact ih (nodup_add hb h)

theorem nodup_addAll_nil (items : List α) : ((b.addAll [] items).map key).Nodup :=
  nodup_addAll hb items List.nodup_nil

/-- Items whose keys are new and differ are put at the end as they are. -/
theorem addAll_eq_append {l items : List α} (h : ((l ++ items).map key).Nodup) :
    b.addAll l items = l ++ items := by
  induction items generalizing l with
  | nil => simp
  | cons x r ih =>
    have hx : key x ∉ l.map key := by
      rw [List.map_append, List.map_cons, List.nodup_append] at h
      intro hm
      exact h.2.2 _ hm _ List.mem_cons_self rfl
    show b.addAll (b.add x l) r = l ++ x :: r
    rw [add_of_not_mem hb hx, ih (by simpa using h), List.append_assoc]
    rfl

theorem addAll_nil_eq_self {l : List α} (h : (l.map key).Nodup) : b.addAll [] l = l :=
  addAll_eq_append hb (by simpa using h)

/-- The keys of the entries are those that were there and the new ones, as they first occur. -/
theorem map_key_addAll [BEq κ] [LawfulBEq κ] {l : List α} (items : List α)
    (h : (l.map key).Nodup) :
    (b.addAll l items).map key = l.map key ++ ((items.map key).removeAll (l.map key)).eraseDups := by
  induction items generalizing l with
  | nil => simp [List.removeAll]
  | cons x r ih =>
    show (b.addAll (b.add x l) r).map key = _
    rw [ih (nodup_add hb h)]
    by_cases hx : key x ∈ l.map key
    · rw [map_key_add_of_mem hb hx, List.map_cons, List.removeAll, List.removeAll,
        List.filter_cons_of_neg (by simpa using hx)]
    · have e : (r.map key).removeAll (l.map key ++ [key x]) =
          ((r.map key).removeAll (l.map key)).filter fun k => !k == key x := by
        simp only [List.removeAll, List.filter_filter]
        apply List.filter_congr
        intro k _
        rw [Bool.eq_iff_iff]
        simp [and_comm]
      have hc : (key x :: r.map key).removeAll (l.map key) =
          key x :: (r.map key).removeAll (l.map key) := by
        rw [List.removeAll, List.filter_cons_of_pos (by simpa using hx), ← List.removeAll]
      rw [add_of_not_mem hb hx, List.map_append, List.map_singleton, e, List.map_cons, hc,
        List.eraseDups_cons, List.append_assoc]
      rfl

/-- One entry for each key, in the order in which the keys first occur. -/
theorem map_key_addAll_nil [BEq κ] [LawfulBEq κ] (items : List α) :
    (b.addAll [] items).map key = (items.map key).eraseDups := by
  have h : (([] : List α).map key).Nodup := List.nodup_nil
  rw [map_key_addAll hb items h]
  show (List.filter (fun _ => true) (items.map key)).eraseDups = _
  rw [List.filter_eq_self.mpr fun _ _ => rfl]

theorem mem_keys_add {k : κ} {x : α} {l : List α} :
    k ∈ (b.add x l).map key ↔ k ∈ l.map key ∨ k = key x := by
  by_cases hx : key x ∈ l.map key
  · rw [map_key_add_of_mem hb hx]
    constructor
    · exact .inl
    · rintro (hk | rfl)
      · exact hk
      · exact hx
  · rw [add_of_not_mem hb hx, List.map_append, List.mem_append, List.map_singleton,
      List.mem_singleton]

/-- The keys of the entries are those that were there and those of the items. -/
theorem mem_keys_addAll {k : κ} {l items : List α} :
    k ∈ (b.addAll l items).map key ↔ k ∈ l.map key ∨ k ∈ items.map key := by
  induction items generalizing l with
  | nil => simp
  | cons x r ih =>
    show k ∈ (b.addAll (b.add x l) r).map key ↔ _
    rw [ih, mem_keys_add hb, List.map_cons, List.mem_cons, or_assoc]

/-- What depends on keys alone is the same for the entries as for all items. -/
theorem mem_map_addAll {β : Type} {f : α → β} (hf : ∀ x y, key x = key y → f x = f y) {y : β}
    {l m : List α} : y ∈ (b.addAll l m).map f ↔ y ∈ l.map f ∨ y ∈ m.map f := by
  have hkeys : ∀ n : List α, y ∈ n.map f ↔ ∃ x, f x = y ∧ key x ∈ n.map key := by
    intro n
    constructor
    · intro hy
      obtain ⟨x, hx, rfl⟩ := List.mem_map.mp hy
      exact ⟨x, rfl, List.mem_map_of_mem hx⟩
    · rintro ⟨x, rfl, hx⟩
      obtain ⟨z, hz, he⟩ := List.mem_map.mp hx
      exact List.mem_map.mpr ⟨z, hz, hf z x he⟩
  simp only [hkeys, mem_keys_addAll hb, and_or_left, exists_or]

/-! ## Entries -/

/-- What is joined to the entry of a key, if there is one. -/
theorem find?_add [DecidableEq κ] (k : κ) (x : α) (l : List α) :
    (b.add x l).find? (fun y => decide (key y = k)) =
      if key x = k then some ((l.find? fun y => decide (key y = k)).elim x (b.join · x))
      else l.find? fun y => decide (key y = k) := by
  induction l with
  | nil =>
    by_cases hx : key x = k
    · simp [add, hx]
    · simp [add, hx]
  | cons y r ih =>
    by_cases hy : key y = key x
    · rw [add_cons_of_eq hb r hy]
      by_cases hx : key x = k
      · simp [hx, hy.trans hx, hb.key_join]
      · simp [hx, hy ▸ hx, hb.key_join]
    · rw [add_cons_of_ne hb r hy, List.find?_cons, List.find?_cons, ih]
      by_cases hk : key y = k
      · have hx : key x ≠ k := fun e => hy (hk.trans e.symm)
        simp [hk, hx]
      · simp [hk]

theorem find?_addAll [DecidableEq κ] (k : κ) (l items : List α) :
    (b.addAll l items).find? (fun y => decide (key y = k)) =
      (items.filter fun y => decide (key y = k)).foldl
        (fun o x => some (o.elim x (b.join · x))) (l.find? fun y => decide (key y = k)) := by
  induction items generalizing l with
  | nil => rfl
  | cons x r ih =>
    show (b.addAll (b.add x l) r).find? _ = _
    rw [ih, find?_add hb k x l]
    by_cases hx : key x = k
    · rw [List.filter_cons_of_pos (by simpa using hx), if_pos hx, List.foldl_cons]
    · rw [List.filter_cons_of_neg (by simpa using hx), if_neg hx]

omit hb in
/-- Where keys differ, an entry is the one that is found under its key. -/
theorem find?_key_of_mem [DecidableEq κ] {l : List α} {e : α} (h : (l.map key).Nodup)
    (he : e ∈ l) : l.find? (fun y => decide (key y = key e)) = some e := by
  induction l with
  | nil => exact absurd he List.not_mem_nil
  | cons y r ih =>
    rw [List.map_cons, List.nodup_cons] at h
    rcases List.mem_cons.mp he with rfl | her
    · simp
    · have hne : key y ≠ key e := fun eq => h.1 (eq ▸ List.mem_map_of_mem her)
      simp [hne, ih h.2 her]

omit hb in
theorem foldl_some_elim (l : List α) (x : α) :
    l.foldl (fun o y => some (o.elim y (b.join · y))) (some x) = some (l.foldl b.join x) := by
  induction l generalizing x with
  | nil => rfl
  | cons y r ih => exact ih (b.join x y)

/-- An entry is the join of all items with its key. -/
theorem filter_of_mem_addAll_nil [DecidableEq κ] {items : List α} {e : α}
    (he : e ∈ b.addAll [] items) :
    ∃ first rest, items.filter (fun y => decide (key y = key e)) = first :: rest ∧
      e = rest.foldl b.join first := by
  have hf := find?_key_of_mem (nodup_addAll_nil hb items) he
  rw [find?_addAll hb, List.find?_nil] at hf
  cases hi : items.filter (fun y => decide (key y = key e)) with
  | nil =>
    rw [hi] at hf
    cases hf
  | cons first rest =>
    rw [hi, List.foldl_cons] at hf
    exact ⟨first, rest, rfl, (Option.some.inj ((foldl_some_elim rest first).symm.trans hf)).symm⟩

/-! ## Grouping -/

/-- Absorbing one item after another with the same key is absorbing their join. -/
theorem add_add_of_eq {y z : α} (l : List α) (h : key y = key z) :
    b.add z (b.add y l) = b.add (b.join y z) l := by
  have hj : key (b.join y z) = key y := hb.key_join y z
  induction l with
  | nil =>
    show b.add z [y] = [b.join y z]
    rw [add_cons_of_eq hb [] h]
  | cons x r ih =>
    by_cases hx : key x = key y
    · have hxy : key (b.join x y) = key z := (hb.key_join x y).trans (hx.trans h)
      rw [add_cons_of_eq hb r hx, add_cons_of_eq hb r hxy, hb.join_assoc,
        add_cons_of_eq hb r (hx.trans hj.symm)]
    · have hz : key x ≠ key z := fun e => hx (e.trans h.symm)
      have hyz : key x ≠ key (b.join y z) := fun e => hx (e.trans hj)
      rw [add_cons_of_ne hb r hx, add_cons_of_ne hb _ hz, add_cons_of_ne hb r hyz, ih]

/-- An item that has an entry may be absorbed before an item with another key. -/
theorem add_comm_of_mem {w z : α} {l : List α} (hz : key z ∈ l.map key) (h : key w ≠ key z) :
    b.add w (b.add z l) = b.add z (b.add w l) := by
  induction l with
  | nil => exact absurd hz List.not_mem_nil
  | cons x r ih =>
    by_cases hxz : key x = key z
    · have hw : key x ≠ key w := fun e => h (e.symm.trans hxz)
      have hwj : key (b.join x z) ≠ key w := fun e => hw ((hb.key_join x z).symm.trans e)
      rw [add_cons_of_eq hb r hxz, add_cons_of_ne hb r hwj, add_cons_of_ne hb r hw,
        add_cons_of_eq hb _ hxz]
    · rw [List.map_cons] at hz
      have hr : key z ∈ r.map key := List.mem_of_ne_of_mem (Ne.symm hxz) hz
      by_cases hxw : key x = key w
      · have hj : key (b.join x w) ≠ key z := fun e => hxz ((hb.key_join x w).symm.trans e)
        rw [add_cons_of_ne hb r hxz, add_cons_of_eq hb _ hxw, add_cons_of_eq hb r hxw,
          add_cons_of_ne hb r hj]
      · rw [add_cons_of_ne hb r hxz, add_cons_of_ne hb _ hxw, add_cons_of_ne hb r hxw,
          add_cons_of_ne hb _ hxz, ih hr]

/-- The same for a list of items with other keys. -/
theorem addAll_add_of_mem {z : α} {l r : List α} (hz : key z ∈ l.map key)
    (hr : key z ∉ r.map key) : b.addAll (b.add z l) r = b.add z (b.addAll l r) := by
  induction r generalizing l with
  | nil => rfl
  | cons w r ih =>
    rw [List.map_cons, List.mem_cons, not_or] at hr
    show b.addAll (b.add w (b.add z l)) r = b.add z (b.addAll (b.add w l) r)
    rw [add_comm_of_mem hb hz (Ne.symm hr.1)]
    apply ih _ hr.2
    by_cases hw : key w ∈ l.map key
    · rw [map_key_add_of_mem hb hw]
      exact hz
    · rw [add_of_not_mem hb hw, List.map_append]
      exact List.mem_append_left _ hz

/-- Absorbing entries one of which has absorbed an item is absorbing the entries and the item. -/
theorem addAll_add {z : α} {l m : List α} (hm : (m.map key).Nodup) :
    b.addAll l (b.add z m) = b.add z (b.addAll l m) := by
  induction m generalizing l with
  | nil => rfl
  | cons y r ih =>
    rw [List.map_cons, List.nodup_cons] at hm
    by_cases hy : key y = key z
    · -- `y` absorbs `z`, and no later entry has that key
      have hyl : key z ∈ (b.add y l).map key := by
        by_cases h : key y ∈ l.map key
        · rw [map_key_add_of_mem hb h, ← hy]
          exact h
        · rw [add_of_not_mem hb h, ← hy]
          simp
      rw [add_cons_of_eq hb r hy]
      show b.addAll (b.add (b.join y z) l) r = b.add z (b.addAll (b.add y l) r)
      rw [← add_add_of_eq hb l hy, addAll_add_of_mem hb hyl (hy ▸ hm.1)]
    · rw [add_cons_of_ne hb r hy]
      exact ih hm.2

/-- Lists may be absorbed in any grouping, if the keys of the middle one differ. -/
theorem addAll_assoc (l : List α) {m : List α} (n : List α) (hm : (m.map key).Nodup) :
    b.addAll (b.addAll l m) n = b.addAll l (b.addAll m n) := by
  induction n generalizing m with
  | nil => rfl
  | cons z r ih =>
    show b.addAll (b.add z (b.addAll l m)) r = b.addAll l (b.addAll (b.add z m) r)
    rw [← addAll_add hb hm, ih (nodup_add hb hm)]

/-- Items may be combined among themselves before they are absorbed. -/
theorem addAll_addAll_nil (l items : List α) : b.addAll l (b.addAll [] items) = b.addAll l items :=
  (addAll_assoc hb l (m := []) items List.nodup_nil).symm

/-- Combining the entries of a list with further items is combining all items. -/
theorem addAll_nil_addAll_nil_append (l m : List α) :
    b.addAll [] (b.addAll [] l ++ m) = b.addAll [] (l ++ m) := by
  rw [addAll_append, addAll_append, addAll_addAll_nil hb]

theorem addAll_nil_append_addAll_nil (l m : List α) :
    b.addAll [] (l ++ b.addAll [] m) = b.addAll [] (l ++ m) := by
  rw [addAll_append, addAll_append, addAll_addAll_nil hb]

/-- Two lists may each be combined first. -/
theorem addAll_nil_of_parts (l m : List α) :
    b.addAll [] (b.addAll [] l ++ b.addAll [] m) = b.addAll [] (l ++ m) := by
  rw [addAll_nil_addAll_nil_append hb, addAll_nil_append_addAll_nil hb]

end

end Absorption

end ApiDoc
