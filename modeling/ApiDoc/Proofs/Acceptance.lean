import ApiDoc.Proofs.Combination

/-!
# Which models a fold accepts

A fold compares a new model with the join of those accepted before it.  The join is compatible with
just what all its parts are compatible with (`Joins.compatible_iff`), so a model is rejected exactly if
one of the accepted models alone conflicts with it; a rejected model leaves no trace, and every model
is accounted for:

    1 + merges + conflicts = models                              (foldModels_accounts)
-/

namespace ApiDoc

namespace ClassModel

variable {a b : ClassModel}

theorem compatible_iff_merge : a.Compatible b ↔ ∃ m, a.merge b = .ok m := by
  constructor
  · intro h
    exact ⟨a.join b, merge_eq_ok_iff.mpr ⟨h, rfl⟩⟩
  · rintro ⟨m, h⟩
    exact (merge_eq_ok_iff.mp h).1

theorem not_compatible_iff_merge : ¬a.Compatible b ↔ ∃ e, a.merge b = .error e := by
  rw [compatible_iff_merge]
  cases h : a.merge b with
  | ok m => simp
  | error e => simp

end ClassModel

/-! ## Joins -/

namespace Joins

variable {l : List ClassModel} {acc : ClassModel}

/-- A join goes together with what each of its parts goes together with. -/
theorem compatible_iff (h : Joins l acc) (m : ClassModel) :
    acc.Compatible m ↔ ∀ a ∈ l, a.Compatible m := by
  induction h with
  | one a => simp
  | snoc _ hc ih =>
    rw [ClassModel.compatible_join_left hc, ih]
    simp [or_imp, forall_and]

/-- Folding the parts of a join gives the join and reports nothing. -/
theorem foldModels_eq (h : Joins l acc) : foldModels l = ⟨some acc, l.length - 1, []⟩ := by
  induction h with
  | one m => rfl
  | @snoc l acc m h hc ih =>
    have hl : 0 < l.length := List.length_pos_iff.mpr h.ne_nil
    have ha : (foldModels l).add m = ⟨some (acc.join m), l.length - 1 + 1, []⟩ := by
      rw [ih]
      exact FoldOutcome.add_of_compatible rfl hc
    rw [foldModels_append, List.foldl_cons, List.foldl_nil, ha, List.length_append,
      List.length_singleton]
    congr 1
    omega

end Joins

/-! ## One model -/

namespace FoldOutcome

variable {o : FoldOutcome} {acc m : ClassModel}

/-- Taking a model in reports nothing. -/
def Accepts (o : FoldOutcome) (m : ClassModel) : Prop := (o.add m).conflicts = o.conflicts

instance (o : FoldOutcome) (m : ClassModel) : Decidable (o.Accepts m) :=
  inferInstanceAs (Decidable ((o.add m).conflicts = o.conflicts))

theorem accepts_of_none (ho : o.model = none) : o.Accepts m := by
  unfold Accepts
  rw [add_of_none ho]

theorem accepts_iff (ho : o.model = some acc) : o.Accepts m ↔ acc.Compatible m := by
  unfold Accepts
  by_cases hc : acc.Compatible m
  · rw [add_of_compatible ho hc]
    simp [hc]
  · obtain ⟨e, -, ha⟩ := add_of_not_compatible ho hc
    rw [ha]
    simp [hc]

theorem accepted_of_accepts (h : o.Accepts m) (r : List ClassModel) :
    o.accepted (m :: r) = m :: (o.add m).accepted r :=
  if_pos h

theorem accepted_append (o : FoldOutcome) (l r : List ClassModel) :
    o.accepted (l ++ r) = o.accepted l ++ (l.foldl add o).accepted r := by
  induction l generalizing o with
  | nil => rfl
  | cons m l ih =>
    rw [List.cons_append, accepted, accepted, ih, List.foldl_cons]
    split
    · rfl
    · rfl

/-! ## Accounting -/

/-- The models taken in so far: the first, those merged into it, and those reported. -/
def total (o : FoldOutcome) : Nat := o.model.toList.length + o.merges + o.conflicts.length

theorem total_add (o : FoldOutcome) (m : ClassModel) : (o.add m).total = o.total + 1 := by
  cases ho : o.model with
  | none =>
    rw [add_of_none ho]
    simp only [total, ho, Option.toList_some, Option.toList_none, List.length_singleton, List.length_nil]
    omega
  | some acc =>
    by_cases hc : acc.Compatible m
    · rw [add_of_compatible ho hc]
      simp only [total, ho, Option.toList_some, List.length_singleton]
      omega
    · obtain ⟨e, -, ha⟩ := add_of_not_compatible ho hc
      rw [ha]
      simp only [total, ho, List.length_append, List.length_singleton]
      omega

theorem total_foldl (o : FoldOutcome) (models : List ClassModel) :
    (models.foldl add o).total = o.total + models.length := by
  induction models generalizing o with
  | nil => rfl
  | cons m r ih =>
    rw [List.foldl_cons, ih, total_add, List.length_cons]
    omega

/-- What has been reported stays reported. -/
theorem conflicts_prefix_add (o : FoldOutcome) (m : ClassModel) : o.conflicts <+: (o.add m).conflicts := by
  cases ho : o.model with
  | none =>
    have hsame : o.conflicts ++ [] = (o.add m).conflicts := by
      rw [add_of_none ho, List.append_nil]
    exact ⟨[], hsame⟩
  | some acc =>
    by_cases hc : acc.Compatible m
    · have hsame : o.conflicts ++ [] = (o.add m).conflicts := by
        rw [add_of_compatible ho hc, List.append_nil]
      exact ⟨[], hsame⟩
    · obtain ⟨e, -, ha⟩ := add_of_not_compatible ho hc
      rw [ha]
      exact List.prefix_append _ _

theorem conflicts_prefix_foldl (o : FoldOutcome) (models : List ClassModel) :
    o.conflicts <+: (models.foldl add o).conflicts := by
  induction models generalizing o with
  | nil => exact List.prefix_refl _
  | cons m r ih => exact (conflicts_prefix_add o m).trans (ih (o.add m))

end FoldOutcome

/-! ## Lists of models -/

theorem foldModels_total (models : List ClassModel) : (foldModels models).total = models.length := by
  unfold foldModels
  rw [FoldOutcome.total_foldl]
  exact Nat.zero_add _

/-- What folding has accepted makes up the model so far. -/
theorem joins_acceptedModels {models : List ClassModel} (h : models ≠ []) :
    ∃ acc, (foldModels models).model = some acc ∧ Joins (acceptedModels models) acc := by
  cases models with
  | nil => exact absurd rfl h
  | cons first rest =>
    obtain ⟨acc, accepted, ha, hm, hj⟩ := foldModels_joins first rest
    exact ⟨acc, hm, ha ▸ hj⟩

theorem acceptedModels_append (l r : List ClassModel) :
    acceptedModels (l ++ r) = acceptedModels l ++ (foldModels l).accepted r :=
  FoldOutcome.accepted_append FoldOutcome.start l r

theorem mem_of_mem_acceptedModels {models : List ClassModel} {m : ClassModel}
    (h : m ∈ acceptedModels models) : m ∈ models :=
  (FoldOutcome.accepted_sublist FoldOutcome.start models).subset h

/-- A model is accepted if all those accepted before it go together with it. -/
theorem accepts_iff_forall_accepted (before : List ClassModel) (m : ClassModel) :
    (foldModels before).Accepts m ↔ ∀ a ∈ acceptedModels before, a.Compatible m := by
  by_cases hne : before = []
  · subst hne
    have hall : ∀ a ∈ acceptedModels [], a.Compatible m := by
      intro a ha
      cases ha
    exact ⟨fun _ => hall, fun _ => FoldOutcome.accepts_of_none rfl⟩
  · obtain ⟨acc, hm, hj⟩ := joins_acceptedModels hne
    rw [FoldOutcome.accepts_iff hm, hj.compatible_iff]

theorem not_accepts_iff_exists_accepted (before : List ClassModel) (m : ClassModel) :
    ¬(foldModels before).Accepts m ↔ ∃ a ∈ acceptedModels before, ∃ e, a.merge m = .error e := by
  simp only [accepts_iff_forall_accepted, ← ClassModel.not_compatible_iff_merge]
  simp

/-! ## Sources -/

theorem sourceAbsorption_add (p : Path) (l : List Path) :
    sourceAbsorption.add p l = if l.any (Path.same p) then l else l ++ [p] := by
  have hsame : ∀ q : Path, sourceAbsorption.same q p = Path.same p q := fun q => BEq.comm
  induction l with
  | nil => rfl
  | cons q r ih =>
    rw [Absorption.add, hsame, ih, List.any_cons]
    cases hq : Path.same p q with
    | true => rfl
    | false =>
      simp only [Bool.false_eq_true, if_false, Bool.false_or]
      split
      · rfl
      · rfl

/-- Absorbing sources leaves the distinct ones, as they are first written. -/
theorem sourceAbsorption_addAll_nil (l : List Path) :
    sourceAbsorption.addAll [] l = l.eraseDupsBy Path.same := by
  have loop : ∀ done : List Path,
      sourceAbsorption.addAll done.reverse l = List.eraseDupsBy.loop Path.same l done := by
    induction l with
    | nil => exact fun _ => rfl
    | cons p r ih =>
      intro done
      show sourceAbsorption.addAll (sourceAbsorption.add p done.reverse) r = _
      rw [sourceAbsorption_add, List.any_reverse, List.eraseDupsBy.loop]
      cases done.any (Path.same p) with
      | true => exact ih done
      | false =>
        have := ih (p :: done)
        rwa [List.reverse_cons] at this
  exact loop []

/-! ## Conflicts -/

/-- A rejected model is reported with the sources of what was accepted before it and with its own. -/
theorem conflicts_of_not_accepts {before after : List ClassModel} {m : ClassModel}
    (hr : ∀ a ∈ before, a.Reachable) (hm : ¬(foldModels before).Accepts m) :
    ∃ acc e later, (foldModels before).model = some acc ∧ acc.merge m = .error e ∧
      (foldModels (before ++ m :: after)).conflicts = (foldModels before).conflicts ++
        ⟨e, ((acceptedModels before).flatMap (·.sources)).eraseDupsBy Path.same, m.sources⟩ :: later := by
  have hne : before ≠ [] := by
    rintro rfl
    exact hm (FoldOutcome.accepts_of_none rfl)
  obtain ⟨acc, ho, hj⟩ := joins_acceptedModels hne
  obtain ⟨e, he, ha⟩ := FoldOutcome.add_of_not_compatible ho (mt (FoldOutcome.accepts_iff ho).mpr hm)
  have hs : acc.sources = ((acceptedModels before).flatMap (·.sources)).eraseDupsBy Path.same := by
    rw [← sourceAbsorption_addAll_nil]
    exact hj.sources fun a h => (hr a (mem_of_mem_acceptedModels h)).wellFormed
  obtain ⟨later, hl⟩ := FoldOutcome.conflicts_prefix_foldl ((foldModels before).add m) after
  refine ⟨acc, e, later, ho, he, ?_⟩
  rw [foldModels_append, List.foldl_cons, ← hl, ha, hs, List.append_assoc]
  rfl

/-- Every model is merged or reported; a model is rejected exactly if one that was accepted before it
conflicts with it, and is reported with the sources of both sides; the rejected ones leave no trace. -/
theorem foldModels_accounts {models : List ClassModel} (hne : models ≠ [])
    (hr : ∀ m ∈ models, m.Reachable) :
    ∃ folded, (foldModels models).model = some folded ∧
      1 + (foldModels models).merges + (foldModels models).conflicts.length = models.length ∧
      (∀ before m after, models = before ++ m :: after →
        (¬(foldModels before).Accepts m ↔
          ∃ a ∈ acceptedModels before, ∃ e, a.merge m = .error e) ∧
        (¬(foldModels before).Accepts m → ∃ acc e later,
          (foldModels before).model = some acc ∧ acc.merge m = .error e ∧
          (foldModels models).conflicts = (foldModels before).conflicts ++
            ⟨e, ((acceptedModels before).flatMap (·.sources)).eraseDupsBy Path.same, m.sources⟩ ::
              later)) ∧
      (foldModels (acceptedModels models)).model = some folded ∧
      (foldModels (acceptedModels models)).conflicts = [] := by
  obtain ⟨folded, hm, hj⟩ := joins_acceptedModels hne
  have htotal := foldModels_total models
  simp only [FoldOutcome.total, hm, Option.toList_some, List.length_singleton] at htotal
  refine ⟨folded, hm, htotal, ?_, ?_, ?_⟩
  · rintro before m after rfl
    refine ⟨not_accepts_iff_exists_accepted before m, fun h => ?_⟩
    exact conflicts_of_not_accepts (fun a ha => hr a (List.mem_append_left _ ha)) h
  · rw [hj.foldModels_eq]
  · rw [hj.foldModels_eq]

/-- A page that declares a final class. -/
def finalPage : ClassModel := repeatingDecl.freeze (some ⟨"a/C.html"⟩)

/-- A page that declares an interface of the same name. -/
def interfacePage : ClassModel :=
  { repeatingDecl with kind := .interface }.freeze (some ⟨"b/C.html"⟩)

/-- A page of the same class, with a parent and a value. -/
def regularPage : ClassModel :=
  ({ repeatingDecl with kind := .regular, parent := some (.ofName "p.B") }.freeze
    (some ⟨"c/C.html"⟩)).fill (.ofList [("LIMIT", "2")])

theorem reachable_of_mem_pages : ∀ m ∈ [finalPage, interfacePage, regularPage], m.Reachable := by
  intro m hm
  rcases List.mem_cons.mp hm with rfl | hm
  · exact .freeze _ _
  rcases List.mem_cons.mp hm with rfl | hm
  · exact .freeze _ _
  · rw [List.mem_singleton.mp hm]
    exact .fill _ (.freeze _ _)

/-- Between two pages that go together stands one that does not. -/
theorem foldModels_accounts_of_interfacePage :
    (∀ m ∈ [finalPage, interfacePage, regularPage], m.Reachable) ∧
      ∃ folded, (foldModels [finalPage, interfacePage, regularPage]).model = some folded ∧
        ¬(foldModels [finalPage]).Accepts interfacePage ∧
        (∃ a ∈ acceptedModels [finalPage], ∃ e, a.merge interfacePage = .error e) ∧
        (foldModels [finalPage, interfacePage, regularPage]).merges = 1 ∧
        (foldModels [finalPage, interfacePage, regularPage]).conflicts.length = 1 ∧
        (foldModels [finalPage, regularPage]).model = some folded := by
  have hr := reachable_of_mem_pages
  obtain ⟨folded, hm, -, hall, hagain, -⟩ := foldModels_accounts (List.cons_ne_nil _ _) hr
  have ha : acceptedModels [finalPage, interfacePage, regularPage] = [finalPage, regularPage] := by
    decide +kernel
  have hn : ¬(foldModels [finalPage]).Accepts interfacePage := by decide +kernel
  rw [ha] at hagain
  exact ⟨hr, folded, hm, hn, (hall [finalPage] interfacePage [regularPage] rfl).1.mp hn,
    by decide +kernel, by decide +kernel, hagain⟩

end ApiDoc
