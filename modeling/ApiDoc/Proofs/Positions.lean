import Mathlib.Data.List.Pairwise
import Mathlib.Data.Nat.Find
import Mathlib.Tactic.Basic

/-!
# Lists by place

What a scan of a list finds is told by places: behind the first item of a sort are the items at later
places, and in front of the first item of another sort those with no such item at their place or before
it (`IsBetween`).  So a scan keeps the items at certain places (`itemsAt`), in order.  A scan is followed
on the list of items with their places, and what it keeps of that list is ascending again (`Ascending`).

In a list that is ordered by a relation, the first item that gives a result is the least one
(`findSome?_eq_some_iff`).
-/

namespace ApiDoc

variable {α β : Type}

/-- Whether the item at a place of a list is of a sort; behind the end there is none. -/
def IsAt (p : α → Bool) (l : List α) (i : Nat) : Prop := l[i]?.any p = true

instance (p : α → Bool) (l : List α) (i : Nat) : Decidable (IsAt p l i) :=
  inferInstanceAs (Decidable (l[i]?.any p = true))

/-- The items of a list at the places with a property, in order. -/
def itemsAt (P : Nat → Prop) [DecidablePred P] (l : List α) : List α :=
  (l.zipIdx.filter fun x => P x.2).map (·.1)

/-- A place is behind the first item of a sort, and from there on up to it there is no item of another
sort. -/
def IsBetween (p q : α → Bool) (l : List α) (i : Nat) : Prop :=
  ∃ k < i, IsAt p l k ∧ (∀ j < k, ¬IsAt p l j) ∧ ∀ j ≤ i, k < j → ¬IsAt q l j

instance (p q : α → Bool) (l : List α) (i : Nat) : Decidable (IsBetween p q l i) :=
  inferInstanceAs (Decidable (∃ k, k < i ∧ _))

/-- Items with their places, in order. -/
abbrev Ascending (l : List (α × Nat)) : Prop := l.Pairwise fun x y => x.2 < y.2

theorem ascending_zipIdx (l : List α) : Ascending l.zipIdx := by
  have h : (List.range' 0 l.length).Pairwise (· < ·) := List.pairwise_lt_range'
  rw [← List.zipIdx_map_snd 0 l] at h
  exact List.pairwise_map.mp h

/-! ## Items at a place -/

section
variable {p : α → Bool} {l : List α} {i : Nat}

theorem isAt_iff : IsAt p l i ↔ ∃ x ∈ l.zipIdx, x.2 = i ∧ p x.1 = true := by
  rw [IsAt, Option.any_eq_true]
  constructor
  · rintro ⟨a, ha, hp⟩
    exact ⟨(a, i), List.mem_zipIdx_iff_getElem?.mpr ha, rfl, hp⟩
  · rintro ⟨⟨a, j⟩, ha, rfl, hp⟩
    exact ⟨a, List.mem_zipIdx_iff_getElem?.mp ha, hp⟩

theorem IsAt.lt_length (h : IsAt p l i) : i < l.length := by
  obtain ⟨x, hx, rfl, -⟩ := isAt_iff.mp h
  exact List.snd_lt_of_mem_zipIdx hx

theorem isAt_of_mem {x : α × Nat} (h : x ∈ l.zipIdx) : IsAt p l x.2 ↔ p x.1 = true := by
  rw [IsAt, List.mem_zipIdx_iff_getElem?.mp h, Option.any_some]

theorem any_lt_iff :
    (l.zipIdx.any fun y => p y.1 && decide (y.2 < i)) = true ↔ ∃ k < i, IsAt p l k := by
  simp only [List.any_eq_true, Bool.and_eq_true, decide_eq_true_iff, isAt_iff]
  constructor
  · rintro ⟨y, hy, hp, hlt⟩
    exact ⟨y.2, hlt, y, hy, rfl, hp⟩
  · rintro ⟨_, hlt, y, hy, rfl, hp⟩
    exact ⟨y, hy, hp, hlt⟩

end

/-! ## Scans -/

section
variable {l : List (α × Nat)} {p : α → Bool}

/-- What follows the first item of a sort. -/
theorem drop_dropWhile_eq_filter (hl : Ascending l) : ((l.map (·.1)).dropWhile (!p ·)).drop 1 =
    (l.filter fun x => l.any fun y => p y.1 && decide (y.2 < x.2)).map (·.1) := by
  induction l with
  | nil => rfl
  | cons a r ih =>
    obtain ⟨ha, hr⟩ := List.pairwise_cons.mp hl
    have hfirst : ¬((a :: r).any fun y => p y.1 && decide (y.2 < a.2)) = true := by
      simp only [List.any_eq_true, Bool.and_eq_true, decide_eq_true_iff, not_exists, not_and]
      intro y hy _
      rcases List.mem_cons.mp hy with rfl | hy
      · exact Nat.lt_irrefl _
      · exact Nat.not_lt_of_gt (ha y hy)
    rw [List.filter_cons, if_neg hfirst, List.map_cons]
    by_cases hp : p a.1 = true
    · have hall : ∀ x ∈ r, (a :: r).any (fun y => p y.1 && decide (y.2 < x.2)) = true := by
        intro x hx
        rw [List.any_cons, hp, decide_eq_true (ha x hx)]
        rfl
      rw [List.filter_eq_self.mpr hall, List.dropWhile_cons_of_neg (by simp [hp])]
      rfl
    · rw [Bool.not_eq_true] at hp
      rw [List.dropWhile_cons_of_pos (by simp [hp]), ih hr]
      refine congrArg _ (List.filter_congr fun x _ => ?_)
      rw [List.any_cons, hp, Bool.false_and, Bool.false_or]

/-- The items in front of the first one of another sort. -/
theorem takeWhile_eq_filter (hl : Ascending l) : (l.map (·.1)).takeWhile p =
    (l.filter fun x => l.all fun y => p y.1 || decide (x.2 < y.2)).map (·.1) := by
  induction l with
  | nil => rfl
  | cons a r ih =>
    obtain ⟨ha, hr⟩ := List.pairwise_cons.mp hl
    by_cases hp : p a.1 = true
    · have hfirst : (a :: r).all (fun y => p y.1 || decide (a.2 < y.2)) = true := by
        rw [List.all_cons, hp, Bool.true_or, Bool.true_and, List.all_eq_true]
        intro y hy
        rw [decide_eq_true (ha y hy), Bool.or_true]
      rw [List.filter_cons, if_pos hfirst, List.map_cons, List.map_cons, List.takeWhile_cons_of_pos hp,
        ih hr]
      refine congrArg (a.1 :: List.map _ ·) (List.filter_congr fun x _ => ?_)
      rw [List.all_cons, hp, Bool.true_or, Bool.true_and]
    · rw [List.map_cons, List.takeWhile_cons_of_neg hp, eq_comm, List.map_eq_nil_iff,
        List.filter_eq_nil_iff]
      intro x hx
      rw [List.all_cons, Bool.and_eq_true, Bool.or_eq_true, decide_eq_true_iff]
      rintro ⟨h | h, -⟩
      · exact hp h
      · rcases List.mem_cons.mp hx with rfl | hx
        · exact Nat.lt_irrefl _ h
        · exact Nat.lt_asymm h (ha x hx)

end

/-- What stands behind the first item of a sort and in front of the next one of another sort. -/
theorem takeWhile_drop_dropWhile_eq_itemsAt (p q : α → Bool) (l : List α) :
    ((l.dropWhile (!p ·)).drop 1).takeWhile (!q ·) = itemsAt (IsBetween p q l) l := by
  have hl := ascending_zipIdx l
  have hbehind := drop_dropWhile_eq_filter (p := p) hl
  rw [show l.zipIdx.map (·.1) = l from List.zipIdx_map_fst 0 l] at hbehind
  rw [hbehind, takeWhile_eq_filter (hl.filter _), List.filter_filter]
  refine congrArg _ (List.filter_congr fun x _ => ?_)
  rw [Bool.eq_iff_iff, decide_eq_true_iff, Bool.and_eq_true, any_lt_iff, List.all_eq_true]
  constructor
  · rintro ⟨hnone, hsome⟩
    obtain ⟨hlt, hk⟩ := Nat.find_spec hsome
    refine ⟨Nat.find hsome, hlt, hk, fun j hj hp => ?_, fun j hj hkj hq => ?_⟩
    · exact Nat.find_min hsome hj ⟨Nat.lt_trans hj hlt, hp⟩
    · obtain ⟨y, hy, rfl, hstop⟩ := isAt_iff.mp hq
      have hbehind := any_lt_iff.mpr ⟨_, hkj, hk⟩
      rcases Bool.or_eq_true_iff.mp (hnone y (List.mem_filter.mpr ⟨hy, hbehind⟩)) with hno | hlt
      · rw [hstop] at hno
        cases hno
      · exact absurd hj (Nat.not_le_of_lt (of_decide_eq_true hlt))
  · rintro ⟨k, hlt, hk, hfirst, hnone⟩
    refine ⟨fun y hy => ?_, k, hlt, hk⟩
    obtain ⟨hy, hbehind⟩ := List.mem_filter.mp hy
    obtain ⟨k', hlt', hk'⟩ := any_lt_iff.mp hbehind
    have hky : k < y.2 := Nat.lt_of_le_of_lt (Nat.le_of_not_lt fun h => hfirst k' h hk') hlt'
    rw [Bool.or_eq_true, decide_eq_true_iff, Bool.not_eq_true']
    by_cases hle : y.2 ≤ x.2
    · have hno := hnone y.2 hle hky
      rw [isAt_of_mem hy, Bool.not_eq_true] at hno
      exact .inl hno
    · exact .inr (Nat.lt_of_not_le hle)

/-! ## Searches in ordered lists -/

/-- The first result in an ordered list is that of the least item with a result. -/
theorem findSome?_eq_some_iff {r : α → α → Prop} (hasymm : ∀ a b, r a b → ¬r b a) {l : List α}
    (hl : l.Pairwise r) {f : α → Option β} {b : β} :
    l.findSome? f = some b ↔ ∃ a ∈ l, f a = some b ∧ ∀ x ∈ l, r x a → f x = none := by
  constructor
  · intro h
    obtain ⟨before, a, after, rfl, ha, hbefore⟩ := List.findSome?_eq_some_iff.mp h
    refine ⟨a, List.mem_append_right _ List.mem_cons_self, ha, fun x hx hxa => ?_⟩
    rcases List.mem_append.mp hx with hx | hx
    · exact hbefore x hx
    · rcases List.mem_cons.mp hx with rfl | hx
      · exact absurd hxa (hasymm _ _ hxa)
      · have hax := (List.pairwise_cons.mp (List.pairwise_append.mp hl).2.1).1 x hx
        exact absurd hxa (hasymm _ _ hax)
  · rintro ⟨a, ha, hb, hleast⟩
    obtain ⟨before, after, rfl⟩ := List.append_of_mem ha
    refine List.findSome?_eq_some_iff.mpr ⟨before, a, after, rfl, hb, fun x hx => ?_⟩
    exact hleast x (List.mem_append_left _ hx) ((List.pairwise_append.mp hl).2.2 x hx a List.mem_cons_self)

end ApiDoc
