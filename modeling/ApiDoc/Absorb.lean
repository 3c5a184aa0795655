/-!
# Lists whose entries absorb later ones

A list of entries grows by absorption: an item that is the same as an entry is joined into the
first such entry, any other item is put at the end.  Unions of fields and sources, of members whose
`throws` sets widen, and of constants that receive values are all of this shape.
-/

namespace ApiDoc

/-- How items of a list are compared and joined. -/
structure Absorption (α : Type) where
  /-- Whether an entry absorbs an item. -/
  same : α → α → Bool
  /-- The entry that has absorbed an item. -/
  join : α → α → α

namespace Absorption

/-- Adds one item. -/
def add {α : Type} (b : Absorption α) (x : α) : List α → List α
  | [] => [x]
  | y :: r => if b.same y x then b.join y x :: r else y :: add b x r

/-- Adds items in order. -/
def addAll {α : Type} (b : Absorption α) (entries items : List α) : List α :=
  items.foldl (fun l x => b.add x l) entries

/-- Equal items are kept once, at the place of the first. -/
def distinct (α : Type) [DecidableEq α] : Absorption α :=
  ⟨fun x y => x == y, fun x _ => x⟩

/-! ## Lemmas -/

@[simp] theorem addAll_nil {α : Type} (b : Absorption α) (l : List α) : b.addAll l [] = l := rfl

theorem addAll_append {α : Type} (b : Absorption α) (l m n : List α) :
    b.addAll l (m ++ n) = b.addAll (b.addAll l m) n := by
  simp [addAll, List.foldl_append]

/-- An item that no entry absorbs goes to the end. -/
theorem add_eq_append {α : Type} {b : Absorption α} {x : α} {l : List α}
    (h : ∀ y ∈ l, b.same y x = false) : b.add x l = l ++ [x] := by
  induction l with
  | nil => rfl
  | cons y r ih =>
    rw [List.forall_mem_cons] at h
    simp [add, h.1, ih h.2]

end Absorption

end ApiDoc
