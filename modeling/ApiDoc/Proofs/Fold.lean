import ApiDoc.Proofs.Merge

/-!
# Folding models

Folding takes in one model after another; a model that is not compatible with what has been merged so
far is reported and leaves the model as it is (`FoldOutcome.add_of_not_compatible`).  The models that
are not reported are the accepted ones, and the folded model is their join from the left
(`foldModels_joins`).  Models of one class fold to a model and to conflicts of that class
(`foldModels_names`).
-/

namespace ApiDoc

namespace FoldOutcome

/-- The models that are not reported as conflicts when they are taken in one after another. -/
def accepted (o : FoldOutcome) : List ClassModel → List ClassModel
  | [] => []
  | m :: r =>
    if (o.add m).conflicts = o.conflicts then m :: accepted (o.add m) r else accepted (o.add m) r

theorem accepted_sublist (o : FoldOutcome) (models : List ClassModel) :
    (o.accepted models).Sublist models := by
  induction models generalizing o with
  | nil => exact List.Sublist.refl []
  | cons m r ih =>
    unfold accepted
    split
    · exact (ih _).cons_cons m
    · exact (ih _).cons m

/-! ## One model more -/

variable {o : FoldOutcome} {acc m : ClassModel}

theorem add_of_none (ho : o.model = none) : o.add m = { o with model := some m } := by
  unfold add
  rw [ho]

theorem add_of_compatible (ho : o.model = some acc) (hc : acc.Compatible m) :
    o.add m = { o with model := some (acc.join m), merges := o.merges + 1 } := by
  have h : acc.merge m = .ok (acc.join m) := ClassModel.merge_eq_ok_iff.mpr ⟨hc, rfl⟩
  unfold add
  rw [ho]
  simp only [h]

theorem add_of_not_compatible (ho : o.model = some acc) (hc : ¬acc.Compatible m) :
    ∃ e, acc.merge m = .error e ∧
      o.add m = { o with conflicts := o.conflicts ++ [⟨e, acc.sources, m.sources⟩] } := by
  cases h : acc.merge m with
  | ok merged => exact absurd (ClassModel.merge_eq_ok_iff.mp h).1 hc
  | error e =>
    refine ⟨e, rfl, ?_⟩
    unfold add
    rw [ho]
    simp only [h]

end FoldOutcome

/-- The models of a list that folding it does not report. -/
def acceptedModels (models : List ClassModel) : List ClassModel := FoldOutcome.start.accepted models

theorem foldModels_append (l m : List ClassModel) :
    foldModels (l ++ m) = m.foldl FoldOutcome.add (foldModels l) :=
  List.foldl_append

/-! ## Models of one class -/

/-- The model and the conflicts of an outcome are of the class `name`. -/
structure FoldOutcome.Names (o : FoldOutcome) (name : String) : Prop where
  model : ∀ m, o.model = some m → m.fullName = name
  conflicts : ∀ c ∈ o.conflicts, c.error.className = name

theorem FoldOutcome.names_add {o : FoldOutcome} {m : ClassModel} {name : String} (h : o.Names name)
    (hm : m.fullName = name) : (o.add m).Names name := by
  cases ho : o.model with
  | none =>
    rw [add_of_none ho]
    refine ⟨fun a ha => ?_, h.conflicts⟩
    cases ha
    exact hm
  | some acc =>
    have hacc : acc.fullName = name := h.model acc ho
    by_cases hc : acc.Compatible m
    · rw [add_of_compatible ho hc]
      refine ⟨fun a ha => ?_, h.conflicts⟩
      cases ha
      exact hacc
    · obtain ⟨e, he, ha⟩ := add_of_not_compatible ho hc
      rw [ha]
      refine ⟨h.model, fun c hc => ?_⟩
      rcases List.mem_append.mp hc with hc | hc
      · exact h.conflicts c hc
      · rw [List.mem_singleton.mp hc]
        exact (ClassModel.className_of_merge he).trans hacc

theorem foldModels_names {models : List ClassModel} {name : String}
    (h : ∀ m ∈ models, m.fullName = name) : (foldModels models).Names name := by
  have hstart : FoldOutcome.start.Names name := by
    constructor
    · intro m hm
      cases hm
    · intro c hc
      cases hc
  refine List.foldlRecOn (motive := (FoldOutcome.Names · name)) models FoldOutcome.add hstart ?_
  intro o ho m hm
  exact FoldOutcome.names_add ho (h m hm)

/-- The fold of the models of one class. -/
def foldNamed (models : List ClassModel) (name : String) : FoldOutcome :=
  foldModels (models.filter (·.fullName == name))

theorem foldNamed_names (models : List ClassModel) (name : String) : (foldNamed models name).Names name :=
  foldModels_names fun _ hm => by simpa using (List.mem_filter.mp hm).2

theorem foldNamed_append (models : List ClassModel) (m : ClassModel) (name : String) :
    foldNamed (models ++ [m]) name =
      if name = m.fullName then (foldNamed models name).add m else foldNamed models name := by
  unfold foldNamed
  rw [List.filter_append, foldModels_append]
  split
  · next h => simp [h]
  · next h => simp [Ne.symm h]

/-! ## Joins from the left -/

/-- The join of a list of models from the left, each compatible with what comes before it. -/
inductive Joins : List ClassModel → ClassModel → Prop
  | one (m : ClassModel) : Joins [m] m
  | snoc {l : List ClassModel} {acc m : ClassModel} (h : Joins l acc) (hc : acc.Compatible m) :
      Joins (l ++ [m]) (acc.join m)

/-- Folding on from a join gives the join with the models accepted on the way. -/
theorem joins_accepted {o : FoldOutcome} {acc : ClassModel} {done : List ClassModel}
    (ho : o.model = some acc) (h : Joins done acc) (models : List ClassModel) :
    ∃ m, (models.foldl FoldOutcome.add o).model = some m ∧
      Joins (done ++ o.accepted models) m := by
  induction models generalizing o acc done with
  | nil => exact ⟨acc, ho, by simpa [FoldOutcome.accepted] using h⟩
  | cons m r ih =>
    rw [List.foldl_cons]
    by_cases hc : acc.Compatible m
    · have ha := FoldOutcome.add_of_compatible ho hc
      have hm : (o.add m).model = some (acc.join m) := by rw [ha]
      have hk : (o.add m).conflicts = o.conflicts := by rw [ha]
      obtain ⟨final, hf, hj⟩ := ih hm (.snoc h hc)
      refine ⟨final, hf, ?_⟩
      rw [FoldOutcome.accepted, if_pos hk]
      simpa using hj
    · obtain ⟨e, -, ha⟩ := FoldOutcome.add_of_not_compatible ho hc
      have hm : (o.add m).model = some acc := by rw [ha]; exact ho
      have hk : (o.add m).conflicts ≠ o.conflicts := by rw [ha]; simp
      rw [FoldOutcome.accepted, if_neg hk]
      exact ih hm h

/-- The first model is accepted, and the folded model is the join of the accepted ones. -/
theorem foldModels_joins (first : ClassModel) (rest : List ClassModel) :
    ∃ m accepted, acceptedModels (first :: rest) = first :: accepted ∧
      (foldModels (first :: rest)).model = some m ∧ Joins (first :: accepted) m := by
  have ha : FoldOutcome.start.add first = { FoldOutcome.start with model := some first } :=
    FoldOutcome.add_of_none rfl
  have hm : (FoldOutcome.start.add first).model = some first := by rw [ha]
  have hk : (FoldOutcome.start.add first).conflicts = FoldOutcome.start.conflicts := by rw [ha]
  obtain ⟨m, hf, hj⟩ := joins_accepted hm (.one first) rest
  refine ⟨m, (FoldOutcome.start.add first).accepted rest, ?_, hf, hj⟩
  rw [acceptedModels, FoldOutcome.accepted, if_pos hk]

end ApiDoc
