import ApiDoc.Extraction
import ApiDoc.Proofs.Fold
import Mathlib

/-!
# The registry and the report by class

An extraction groups its models by class and folds each group.  What the registry holds under a name
(`get?_registry`) and the conflicts of that class that are reported (`filter_conflicts`) come from the
models of that name alone; the counts of the report are sums over the classes.
What is found about the documents of a root is of four sorts (`exists_of_mem_findings`), none of them a
conflict.
-/

namespace ApiDoc

/-! ## Registration -/

namespace Registry

theorem get?_insert {r : Registry} {m : ClassModel} {name : String} :
    (r.insert m).get? name = if name = m.fullName then some m else r.get? name := by
  unfold get? insert
  rw [OrderedMap.get?_insert]
  simp only [Std.LawfulEqOrd.compare_eq_iff_eq]

theorem get?_foldl_insert {f : String → Option ClassModel} (hf : ∀ n m, f n = some m → m.fullName = n)
    (names : List String) (r : Registry) (name : String) :
    ((names.filterMap f).foldl insert r).get? name =
      if name ∈ names then (f name).or (r.get? name) else r.get? name := by
  induction names generalizing r with
  | nil => rfl
  | cons n rest ih =>
    cases h : f n with
    | none =>
      rw [List.filterMap_cons_none h, ih]
      by_cases hn : name = n
      · subst hn
        simp [h]
      · simp [hn]
    | some m =>
      rw [List.filterMap_cons_some h, List.foldl_cons, ih, get?_insert, hf n m h]
      by_cases hn : name = n
      · subst hn
        simp [h]
      · simp [hn]

end Registry

/-! ## What is found about a root -/

namespace RootReading

variable {r : RootReading} {f : Finding}

theorem exists_of_mem_constantsFindings (h : f ∈ r.constantsFindings) :
    ∃ c e, r.constants = some c ∧ c.table = .error e ∧ f = .constants e := by
  unfold constantsFindings at h
  split at h
  · next path e hc =>
    exact ⟨⟨path, .error e⟩, e, hc, rfl, List.mem_singleton.mp h⟩
  · cases h

theorem exists_of_mem_pageFindings {p : PageReading} (h : f ∈ r.pageFindings p) :
    (∃ e, p.decl = .error e ∧ f = .document e) ∨ ∃ c e, f = .disagreement c p.path e := by
  unfold pageFindings at h
  split at h
  · next e he => exact .inl ⟨e, he, List.mem_singleton.mp h⟩
  · split at h
    · cases h
    · next c values _ =>
      split at h
      · next e _ => exact .inr ⟨c, e, List.mem_singleton.mp h⟩
      · cases h

theorem exists_of_mem_undescribedFindings (h : f ∈ r.undescribedFindings) :
    ∃ c name, f = .undescribed c name r.root := by
  unfold undescribedFindings at h
  split at h
  · cases h
  · next c table _ =>
    obtain ⟨name, -, rfl⟩ := List.mem_map.mp h
    exact ⟨c, name, rfl⟩

/-- A finding of a root is about its page of constants, about one of its pages, or about a class that
no page describes. -/
theorem exists_of_mem_findings (h : f ∈ r.findings) :
    (∃ c e, r.constants = some c ∧ c.table = .error e ∧ f = .constants e) ∨
    (∃ p e, p ∈ r.pages ∧ p.decl = .error e ∧ f = .document e) ∨
    (∃ p c e, p ∈ r.pages ∧ f = .disagreement c p.path e) ∨
    ∃ c name, f = .undescribed c name r.root := by
  unfold findings at h
  rcases List.mem_append.mp h with h | h
  · rcases List.mem_append.mp h with h | h
    · exact .inl (exists_of_mem_constantsFindings h)
    · obtain ⟨p, hp, h⟩ := List.mem_flatMap.mp h
      rcases exists_of_mem_pageFindings h with ⟨e, he, rfl⟩ | ⟨c, e, rfl⟩
      · exact .inr (.inl ⟨p, e, hp, he, rfl⟩)
      · exact .inr (.inr (.inl ⟨p, c, e, hp, rfl⟩))
  · exact .inr (.inr (.inr (exists_of_mem_undescribedFindings h)))

end RootReading

/-! ## Conflicts -/

/-- The conflict that a finding reports. -/
def Finding.conflict? : Finding → Option MergeConflict
  | .conflict c => some c
  | _ => none

theorem Finding.isConflict_eq_isSome (f : Finding) : f.isConflict = f.conflict?.isSome := by
  cases f <;> rfl

/-- What is found about the documents of a root is no conflict. -/
theorem RootReading.filterMap_findings (r : RootReading) : r.findings.filterMap Finding.conflict? = [] := by
  rw [List.filterMap_eq_nil_iff]
  intro f hf
  rcases exists_of_mem_findings hf with ⟨c, e, -, -, rfl⟩ | ⟨p, e, -, -, rfl⟩ | ⟨p, c, e, -, rfl⟩ |
    ⟨c, name, rfl⟩
  · rfl
  · rfl
  · rfl
  · rfl

/-- Of the items collected for different keys, those with one key are the ones collected for it. -/
theorem filter_flatMap_of_nodup {β : Type} {f : String → List β} {key : β → String}
    (hf : ∀ n, ∀ b ∈ f n, key b = n) {names : List String} (hn : names.Nodup) (name : String) :
    (names.flatMap f).filter (key · == name) = if name ∈ names then f name else [] := by
  induction names with
  | nil => rfl
  | cons n rest ih =>
    obtain ⟨hnot, hrest⟩ := List.nodup_cons.mp hn
    rw [List.flatMap_cons, List.filter_append, ih hrest]
    by_cases h : name = n
    · subst h
      have hall : (f name).filter (key · == name) = f name :=
        List.filter_eq_self.mpr fun b hb => by simpa using hf name b hb
      simp [hall, hnot]
    · have hnone : (f n).filter (key · == name) = [] :=
        List.filter_eq_nil_iff.mpr fun b hb => by simpa [hf n b hb] using Ne.symm h
      simp [hnone, h]

namespace Extraction

variable (x : Extraction)

/-- The conflicts that are reported. -/
def conflicts : List MergeConflict := x.findings.filterMap Finding.conflict?

theorem conflicts_eq_flatMap : x.conflicts = x.classNames.flatMap fun n => (x.foldClass n).conflicts := by
  have hroots : (x.roots.flatMap RootReading.findings).filterMap Finding.conflict? = [] := by
    rw [List.filterMap_flatMap, List.flatMap_eq_nil_iff]
    exact fun r _ => r.filterMap_findings
  have hfold : ∀ o : FoldOutcome, (o.conflicts.map Finding.conflict).filterMap Finding.conflict? =
      o.conflicts := by
    intro o
    rw [List.filterMap_map]
    exact List.filterMap_some
  unfold conflicts findings conflictFindings folds
  rw [List.filterMap_append, hroots, List.nil_append, List.filterMap_flatMap, List.flatMap_map]
  simp only [hfold]

/-! ## One class -/

theorem mem_classNames {name : String} : name ∈ x.classNames ↔ ∃ m ∈ x.models, m.fullName = name := by
  unfold classNames
  rw [← OrderedSet.mem_def, OrderedSet.mem_ofList, List.mem_map]

theorem nodup_classNames : x.classNames.Nodup := OrderedSet.nodup_toList _

theorem foldClass_names (name : String) : (x.foldClass name).Names name := foldNamed_names x.models name

theorem foldClass_of_not_mem {name : String} (h : name ∉ x.classNames) : x.foldClass name = .start := by
  have hnil : x.models.filter (·.fullName == name) = [] := by
    rw [List.filter_eq_nil_iff]
    intro m hm he
    exact h (x.mem_classNames.mpr ⟨m, hm, by simpa using he⟩)
  unfold foldClass
  rw [hnil]
  rfl

theorem get?_registry (name : String) : x.registry.get? name = (x.foldClass name).model := by
  have hf : ∀ n m, (x.foldClass n).model = some m → m.fullName = n := fun n m hm =>
    (x.foldClass_names n).model m hm
  have h := Registry.get?_foldl_insert hf x.classNames .empty name
  unfold registry folds Registry.ofList
  rw [List.filterMap_map]
  refine h.trans ?_
  split
  · exact Option.or_none
  · next hn =>
    rw [x.foldClass_of_not_mem hn]
    rfl

theorem filter_conflicts (name : String) :
    x.conflicts.filter (·.error.className == name) = (x.foldClass name).conflicts := by
  rw [conflicts_eq_flatMap,
    filter_flatMap_of_nodup (fun n => (x.foldClass_names n).conflicts) x.nodup_classNames]
  split
  · rfl
  · next hn =>
    rw [x.foldClass_of_not_mem hn]
    rfl

/-! ## Counts -/

theorem report_merges :
    x.report.merges = (x.classNames.map fun n => (x.foldClass n).merges).sum := by
  show x.folds.foldl (fun n o => n + o.merges) 0 = _
  rw [List.sum_eq_foldl_nat, folds, List.foldl_map, List.foldl_map]

theorem report_mergeConflicts : x.report.mergeConflicts = x.conflicts.length := by
  show x.findings.countP Finding.isConflict = _
  unfold conflicts
  rw [List.length_filterMap_eq_countP]
  exact List.countP_congr fun f _ => by rw [f.isConflict_eq_isSome]

theorem length_conflicts :
    x.conflicts.length = (x.classNames.map fun n => (x.foldClass n).conflicts.length).sum := by
  rw [conflicts_eq_flatMap, List.length_flatMap]

end Extraction

end ApiDoc
