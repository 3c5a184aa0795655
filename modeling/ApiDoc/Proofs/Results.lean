import Mathlib.Data.List.Forall2

/-!
# Results of steps that may fail

A sequence of steps succeeds exactly when each step does (`Except.bind_eq_ok_iff`), and a traversal
of a list exactly when each of its items does (`mapM_eq_ok_iff`, `exists_mapM_eq_ok_iff`); otherwise
it fails as the first item that fails (`mapM_append_cons_eq_error`, `mapM_eq_error_iff`).  Two steps
may be said to end alike without their errors (`SameOutcome`).
-/

namespace ApiDoc

variable {α β ε : Type}

theorem Except.bind_eq_ok_iff {x : Except ε α} {f : α → Except ε β} {b : β} :
    (x >>= f) = .ok b ↔ ∃ a, x = .ok a ∧ f a = .ok b := by
  cases x with
  | error e => simp [bind, Except.bind]
  | ok a => simp [bind, Except.bind]

theorem Except.bind_eq_error_iff {x : Except ε α} {f : α → Except ε β} {e : ε} :
    (x >>= f) = .error e ↔ x = .error e ∨ ∃ a, x = .ok a ∧ f a = .error e := by
  cases x with
  | error e' => simp [bind, Except.bind]
  | ok a => simp [bind, Except.bind]

theorem Except.pure_eq_ok_iff {a b : α} : (pure a : Except ε α) = .ok b ↔ a = b := by
  simp [pure, Except.pure]

/-- Both give the same result, or both fail, each for a reason of its own. -/
def SameOutcome (x y : Except ε α) : Prop :=
  (∃ a, x = .ok a ∧ y = .ok a) ∨ ((∃ e, x = .error e) ∧ ∃ e, y = .error e)

theorem sameOutcome_iff {x y : Except ε α} :
    SameOutcome x y ↔ ∀ a, x = .ok a ↔ y = .ok a := by
  cases x with
  | error e =>
    cases y with
    | error e' => simp [SameOutcome]
    | ok b => simp [SameOutcome]
  | ok a =>
    cases y with
    | error e' => simp [SameOutcome]
    | ok b => simp [SameOutcome, eq_comm]

theorem exists_eq_error_iff {x : Except ε α} : (∃ e, x = .error e) ↔ ∀ a, x ≠ .ok a := by
  cases x with
  | error e => simp
  | ok a => simp

/-- What is said of an error changes no result. -/
theorem Except.mapError_eq_ok_iff {ε' : Type} {x : Except ε α} {f : ε → ε'} {a : α} :
    x.mapError f = .ok a ↔ x = .ok a := by
  cases x with
  | error e => exact ⟨fun h => (nomatch h), fun h => (nomatch h)⟩
  | ok b =>
    constructor
    · rintro ⟨⟩
      rfl
    · rintro ⟨⟩
      rfl

theorem Except.mapError_eq_error_iff {ε' : Type} {x : Except ε α} {f : ε → ε'} {e : ε'} :
    x.mapError f = .error e ↔ ∃ cause, x = .error cause ∧ f cause = e := by
  cases x with
  | error cause => simp [Except.mapError]
  | ok a => simp [Except.mapError]

/-- Results that are all there come one for each item, in the order of the items. -/
theorem mapM_eq_ok_iff {f : α → Except ε β} {l : List α} {results : List β} :
    l.mapM f = .ok results ↔ List.Forall₂ (fun a b => f a = .ok b) l results := by
  induction l generalizing results with
  | nil =>
    rw [List.mapM_nil, Except.pure_eq_ok_iff, List.forall₂_nil_left_iff]
    exact eq_comm
  | cons a r ih =>
    simp only [List.mapM_cons, Except.bind_eq_ok_iff, Except.pure_eq_ok_iff, ih]
    constructor
    · rintro ⟨b, hb, rest, hrest, rfl⟩
      exact .cons hb hrest
    · intro h
      cases h with
      | cons hb hrest => exact ⟨_, hb, _, hrest, rfl⟩

/-- What every result has, all results have. -/
theorem forall_mem_of_mapM_eq_ok {f : α → Except ε β} {P : β → Prop} {l : List α} {results : List β}
    (h : l.mapM f = .ok results) (hP : ∀ a b, f a = .ok b → P b) : ∀ b ∈ results, P b := by
  have hf := mapM_eq_ok_iff.mp h
  clear h
  induction hf with
  | nil => exact List.forall_mem_nil _
  | cons hb _ ih => exact List.forall_mem_cons.mpr ⟨hP _ _ hb, ih⟩

/-- Related items can be chosen one by one. -/
theorem exists_forall₂_iff {R : α → β → Prop} {l : List α} :
    (∃ results, List.Forall₂ R l results) ↔ ∀ a ∈ l, ∃ b, R a b := by
  induction l with
  | nil => exact ⟨fun _ => List.forall_mem_nil _, fun _ => ⟨[], .nil⟩⟩
  | cons a r ih =>
    rw [List.forall_mem_cons, ← ih]
    constructor
    · rintro ⟨results, h⟩
      cases h with
      | cons hb hrest => exact ⟨⟨_, hb⟩, _, hrest⟩
    · rintro ⟨⟨b, hb⟩, rest, hrest⟩
      exact ⟨b :: rest, .cons hb hrest⟩

theorem exists_mapM_eq_ok_iff {f : α → Except ε β} {l : List α} :
    (∃ results, l.mapM f = .ok results) ↔ ∀ a ∈ l, ∃ b, f a = .ok b := by
  simp only [mapM_eq_ok_iff, exists_forall₂_iff]

/-- A traversal fails as the first item that fails. -/
theorem mapM_append_cons_eq_error {f : α → Except ε β} {before after : List α} {a : α} {e : ε}
    (hbefore : ∀ b ∈ before, ∃ c, f b = .ok c) (ha : f a = .error e) :
    (before ++ a :: after).mapM f = .error e := by
  obtain ⟨results, hresults⟩ := exists_mapM_eq_ok_iff.mpr hbefore
  rw [List.mapM_append, hresults, List.mapM_cons, ha]
  rfl

/-- A failed traversal has a first item that fails, and fails as that item. -/
theorem mapM_eq_error_iff {f : α → Except ε β} {l : List α} {e : ε} :
    l.mapM f = .error e ↔ ∃ (k : Nat) (a : α), l[k]? = some a ∧ f a = .error e ∧
      ∀ j < k, ∀ b, l[j]? = some b → ∃ c, f b = .ok c := by
  constructor
  · intro h
    induction l with
    | nil => cases h
    | cons a r ih =>
      rw [List.mapM_cons] at h
      cases ha : f a with
      | error e' =>
        rw [ha] at h
        cases h
        exact ⟨0, a, rfl, ha, fun j hj => absurd hj (Nat.not_lt_zero j)⟩
      | ok b =>
        rw [ha] at h
        cases hr : r.mapM f with
        | ok bs =>
          rw [hr] at h
          cases h
        | error e' =>
          rw [hr] at h
          cases h
          obtain ⟨k, a', hk, ha', hbefore⟩ := ih hr
          refine ⟨k + 1, a', hk, ha', fun j hj b hb => ?_⟩
          cases j with
          | zero => exact Option.some.inj hb ▸ ⟨_, ha⟩
          | succ j => exact hbefore j (Nat.lt_of_succ_lt_succ hj) b hb
  · rintro ⟨k, a, hk, ha, hbefore⟩
    obtain ⟨hlt, rfl⟩ := List.getElem?_eq_some_iff.mp hk
    rw [← List.take_append_drop k l, List.drop_eq_getElem_cons hlt]
    refine mapM_append_cons_eq_error (fun b hb => ?_) ha
    obtain ⟨j, hj, rfl⟩ := List.mem_iff_getElem.mp hb
    rw [List.length_take] at hj
    exact hbefore j (by omega) _ (by rw [List.getElem_take]; exact List.getElem?_eq_getElem _)

/-- The same where each item is told its place. -/
theorem mapM_zipIdx_eq_error_iff {f : α × Nat → Except ε β} {l : List α} {e : ε} :
    l.zipIdx.mapM f = .error e ↔ ∃ (k : Nat) (a : α), l[k]? = some a ∧ f (a, k) = .error e ∧
      ∀ j < k, ∀ b, l[j]? = some b → ∃ c, f (b, j) = .ok c := by
  have hplaced : ∀ {i : Nat} {x : α × Nat}, l.zipIdx[i]? = some x ↔ l[i]? = some x.1 ∧ x.2 = i := by
    rintro i ⟨a, j⟩
    simp only [List.getElem?_zipIdx, Nat.zero_add, Option.map_eq_some_iff, Prod.mk.injEq]
    constructor
    · rintro ⟨b, hb, rfl, rfl⟩
      exact ⟨hb, rfl⟩
    · rintro ⟨ha, rfl⟩
      exact ⟨a, ha, rfl, rfl⟩
  simp only [mapM_eq_error_iff, hplaced, Prod.forall, Prod.exists, and_imp]
  constructor
  · rintro ⟨k, a, _, ⟨ha, rfl⟩, he, hbefore⟩
    exact ⟨_, a, ha, he, fun j hj b hb => hbefore j hj b j hb rfl⟩
  · rintro ⟨k, a, ha, he, hbefore⟩
    refine ⟨k, a, k, ⟨ha, rfl⟩, he, ?_⟩
    rintro j hj b _ hb rfl
    exact hbefore _ hj b hb

/-! ## Errors -/

/-- The error of a result, if it is one. -/
def errorOf? : Except ε α → Option ε
  | .error e => some e
  | .ok _ => none

theorem errorOf?_eq_some_iff {x : Except ε α} {e : ε} : errorOf? x = some e ↔ x = .error e := by
  cases x <;> simp [errorOf?]

theorem errorOf?_eq_none_iff {x : Except ε α} : errorOf? x = none ↔ ∃ a, x = .ok a := by
  cases x <;> simp [errorOf?]

/-- The first error of a traversal counts. -/
theorem errorOf?_mapM (f : α → Except ε β) (l : List α) :
    errorOf? (l.mapM f) = l.findSome? fun a => errorOf? (f a) := by
  induction l with
  | nil => rfl
  | cons a r ih =>
    rw [List.mapM_cons, List.findSome?_cons, ← ih]
    cases f a with
    | error e => rfl
    | ok b =>
      cases r.mapM f with
      | error e => rfl
      | ok bs => rfl

end ApiDoc
