import ApiDoc.Proofs.Acceptance
import ApiDoc.Proofs.Sequential
import Mathlib.Data.List.Pairwise

/-!
# Models that are folded in again

A list of entries that has absorbed an item does not change when the item comes again
(`Absorption.add_addAll_of_mem`).  So the join of several models absorbs each of them
(`Joins.join_eq_self`), a model that was rejected is rejected again, and a documentation root that is
listed a second time changes no registry (`repetition_changes_nothing`).
-/

namespace ApiDoc

/-! ## Absorbing an item again -/

namespace Absorption

/-- Items that leave no trace one by one leave none together. -/
theorem addAll_eq_self {α : Type} {b : Absorption α} {l items : List α}
    (h : ∀ x ∈ items, b.add x l = l) : b.addAll l items = l := by
  induction items with
  | nil => rfl
  | cons x r ih =>
    rw [List.forall_mem_cons] at h
    show b.addAll (b.add x l) r = l
    rw [h.1, ih h.2]

/-- Joining an item to itself, or to what it has been joined with, changes nothing. -/
structure Idempotent {α : Type} (b : Absorption α) : Prop where
  join_self : ∀ x, b.join x x = x
  join_join_self : ∀ x y, b.join (b.join x y) x = b.join x y

section
variable {α κ : Type} {b : Absorption α} {key : α → κ} (hb : b.Lawful key)
include hb

/-- An item that is absorbed without a trace has an entry. -/
theorem mem_keys_of_add_eq_self {x : α} {l : List α} (h : b.add x l = l) : key x ∈ l.map key := by
  by_contra hn
  rw [add_of_not_mem hb hn] at h
  simpa using congrArg List.length h

variable (hi : b.Idempotent)
include hi

theorem add_add_self (x : α) (l : List α) : b.add x (b.add x l) = b.add x l := by
  rw [add_add_of_eq hb l rfl, hi.join_self]

/-- What leaves no trace now leaves none after another item. -/
theorem add_add_of_add_eq_self {x : α} {l : List α} (h : b.add x l = l) (y : α) :
    b.add x (b.add y l) = b.add y l := by
  by_cases hy : key y = key x
  · -- the entry absorbs `x`, then `y`, then `x` again
    have hj : key (b.join x y) = key x := hb.key_join x y
    calc b.add x (b.add y l)
        = b.add x (b.add y (b.add x l)) := by rw [h]
      _ = b.add (b.join (b.join x y) x) l := by
        rw [add_add_of_eq hb l hy.symm, add_add_of_eq hb l hj]
      _ = b.add y (b.add x l) := by rw [hi.join_join_self, add_add_of_eq hb l hy.symm]
      _ = b.add y l := by rw [h]
  · have hx := mem_keys_of_add_eq_self hb h
    rw [← add_comm_of_mem hb hx hy, h]

theorem add_addAll_of_add_eq_self {x : α} {l : List α} (h : b.add x l = l) (items : List α) :
    b.add x (b.addAll l items) = b.addAll l items := by
  induction items generalizing l with
  | nil => exact h
  | cons y r ih => exact ih (add_add_of_add_eq_self hb hi h y)

/-- An item that has been absorbed leaves no trace when it comes again. -/
theorem add_addAll_of_mem {x : α} {items : List α} (hx : x ∈ items) (l : List α) :
    b.add x (b.addAll l items) = b.addAll l items := by
  obtain ⟨before, after, rfl⟩ := List.append_of_mem hx
  rw [addAll_append]
  exact add_addAll_of_add_eq_self hb hi (add_add_self hb hi x _) after

/-- Items that have all been absorbed leave no trace when they come again. -/
theorem addAll_addAll_of_subset {items more : List α} (h : ∀ x ∈ more, x ∈ items) (l : List α) :
    b.addAll (b.addAll l items) more = b.addAll l items :=
  addAll_eq_self fun x hx => add_addAll_of_mem hb hi (h x hx) l

end

end Absorption

theorem OrderedSet.union_eq_left {α : Type} [Ord α] [Std.TransOrd α] [Std.LawfulEqOrd α]
    {s t : OrderedSet α} (h : ∀ a ∈ t, a ∈ s) : s ∪ t = s := by
  ext a
  rw [OrderedSet.mem_union]
  exact ⟨fun ha => ha.elim id (h a), .inl⟩

/-- A set that has been united with another absorbs its first part. -/
theorem OrderedSet.union_union_left {α : Type} [Ord α] [Std.TransOrd α] [Std.LawfulEqOrd α]
    (s t : OrderedSet α) : (s ∪ t) ∪ s = s ∪ t :=
  union_eq_left fun _ ha => mem_union.mpr (.inl ha)

theorem constructorAbsorption_idempotent : constructorAbsorption.Idempotent where
  join_self c := by
    show c.throwing c.throws = c
    rw [Constructor.throwing, OrderedSet.union_eq_left fun _ h => h]
  join_join_self c d := by
    show (c.throwing d.throws).throwing c.throws = c.throwing d.throws
    rw [Constructor.throwing, Constructor.throwing, OrderedSet.union_union_left]

theorem methodAbsorption_idempotent : methodAbsorption.Idempotent where
  join_self m := by
    show m.throwing m.throws = m
    rw [Method.throwing, OrderedSet.union_eq_left fun _ h => h]
  join_join_self m n := by
    show (m.throwing n.throws).throwing m.throws = m.throwing n.throws
    rw [Method.throwing, Method.throwing, OrderedSet.union_union_left]

theorem constantAbsorption_idempotent : constantAbsorption.Idempotent where
  join_self c := by simp [constantAbsorption]
  join_join_self c d := by
    show { c with value := (c.value.or d.value).or c.value } = { c with value := c.value.or d.value }
    cases c.value <;> cases d.value <;> rfl

theorem distinct_idempotent {α : Type} [DecidableEq α] : (Absorption.distinct α).Idempotent where
  join_self _ := rfl
  join_join_self _ _ := rfl

/-- Sources leave no trace where their components are those of sources that are there. -/
theorem sourceAbsorption_addAll_of_subset {items more : List Path}
    (h : ∀ p ∈ more, p.components ∈ items.map Path.components) :
    sourceAbsorption.addAll (sourceAbsorption.addAll [] items) more =
      sourceAbsorption.addAll [] items := by
  apply Absorption.addAll_eq_self
  intro p hp
  have hk : p.components ∈ (sourceAbsorption.addAll [] items).map Path.components := by
    rw [Absorption.map_key_addAll_nil sourceAbsorption_lawful, List.mem_eraseDups]
    exact h p hp
  obtain ⟨q, hq, e⟩ := List.mem_map.mp hk
  have hany : (sourceAbsorption.addAll [] items).any (Path.same p) = true :=
    List.any_eq_true.mpr ⟨q, hq, by simp [Path.same, e]⟩
  rw [sourceAbsorption_add, if_pos hany]

/-! ## Joining a model again -/

namespace ClassModel

theorem Compatible.refl (m : ClassModel) : m.Compatible m :=
  ⟨rfl, rfl, fun _ _ hs ht => Option.some.inj (hs.symm.trans ht)⟩

instance : Std.Symm Compatible := ⟨fun _ _ h => h.symm⟩

/-- Models that are the same differ at most in how their sources are written. -/
theorem eq_of_same {a b : ClassModel} (h : a.same b = true) :
    ∃ s : List Path, b = { a with sources := s } ∧
      s.map Path.components = a.sources.map Path.components := by
  unfold same at h
  rw [Bool.and_eq_true, beq_iff_eq, beq_iff_eq] at h
  refine ⟨b.sources, ?_, h.2.symm⟩
  exact congrArg (fun m : ClassModel => { m with sources := b.sources }) h.1.symm

end ClassModel

namespace Joins

variable {l : List ClassModel} {acc m : ClassModel}

theorem pairwise_compatible (h : Joins l acc) : l.Pairwise ClassModel.Compatible := by
  induction h with
  | one m => exact List.pairwise_singleton _ m
  | snoc h hc ih =>
    refine List.pairwise_append.mpr ⟨ih, List.pairwise_singleton _ _, fun a ha b hb => ?_⟩
    rw [List.mem_singleton.mp hb]
    exact (h.compatible_iff _).mp hc a ha

/-- A join goes together with each of its parts. -/
theorem compatible_of_mem (h : Joins l acc) (hm : m ∈ l) : acc.Compatible m := by
  have hall : ∀ a ∈ l, ∀ b ∈ l, a.Compatible b := fun a ha b hb =>
    h.pairwise_compatible.forall_of_forall (fun a _ => ClassModel.Compatible.refl a) ha hb
  exact (h.compatible_iff m).mpr fun a ha => hall a ha m hm

/-- The kind of a part adds nothing. -/
theorem kind_join_of_mem (h : Joins l acc) (hm : m ∈ l) : acc.kind.join m.kind = acc.kind := by
  rcases h.kind with hk | ⟨hr, -, -⟩
  · exact if_pos (hk m hm).symm
  · rw [hr]
    unfold ClassKind.join
    split
    · rfl
    · rfl

/-- The parent of a part adds nothing. -/
theorem parent_or_of_mem (h : Joins l acc) (hm : m ∈ l) : acc.parent.or m.parent = acc.parent := by
  cases ha : acc.parent with
  | some p => rfl
  | none =>
    cases hp : m.parent with
    | none => rfl
    | some p =>
      have : acc.parent = some p := (h.parent p).mpr ⟨m, hm, hp⟩
      rw [ha] at this
      cases this

/-- A join absorbs each of its parts, however the sources of the part are written. -/
theorem join_eq_self (h : Joins l acc) (hw : ∀ a ∈ l, a.WellFormed) (hm : m ∈ l) {s : List Path}
    (hs : s.map Path.components = m.sources.map Path.components) :
    acc.join { m with sources := s } = acc := by
  have hwf := h.wellFormed hw
  have himplements : acc.implements ∪ m.implements = acc.implements :=
    OrderedSet.union_eq_left fun t ht => (h.implements t).mpr ⟨m, hm, ht⟩
  have hconstructors : constructorAbsorption.addAll acc.constructors m.constructors =
      acc.constructors := by
    rw [h.constructors hw]
    exact Absorption.addAll_addAll_of_subset constructorAbsorption_lawful
      constructorAbsorption_idempotent (fun c hc => List.mem_flatMap.mpr ⟨m, hm, hc⟩) []
  have hmethods : methodAbsorption.addAll acc.methods m.methods = acc.methods := by
    rw [h.methods hw]
    exact Absorption.addAll_addAll_of_subset methodAbsorption_lawful methodAbsorption_idempotent
      (fun n hn => List.mem_flatMap.mpr ⟨m, hm, hn⟩) []
  have hfields : (Absorption.distinct Field).addAll [] (acc.fields ++ m.fields) = acc.fields := by
    have hself := Absorption.addAll_nil_eq_self distinct_lawful (by simpa using hwf.fields)
    rw [Absorption.addAll_nil_append_of_eq hself]
    apply Absorption.addAll_eq_self
    intro f hf
    have hfa : f ∈ acc.fields := by
      rw [h.fields hw, List.mem_eraseDups]
      exact List.mem_flatMap.mpr ⟨m, hm, hf⟩
    have := Absorption.add_addAll_of_mem distinct_lawful distinct_idempotent hfa []
    rwa [hself] at this
  have hconstants : constantAbsorption.addAll [] (acc.constants ++ m.constants) = acc.constants := by
    have hself := Absorption.addAll_nil_eq_self constantAbsorption_lawful hwf.constants
    rw [Absorption.addAll_nil_append_of_eq hself, h.constants hw]
    exact Absorption.addAll_addAll_of_subset constantAbsorption_lawful constantAbsorption_idempotent
      (fun c hc => List.mem_flatMap.mpr ⟨m, hm, hc⟩) []
  have hsources : sourceAbsorption.addAll [] (acc.sources ++ s) = acc.sources := by
    have hself := Absorption.addAll_nil_eq_self sourceAbsorption_lawful hwf.sources
    rw [Absorption.addAll_nil_append_of_eq hself, h.sources hw]
    apply sourceAbsorption_addAll_of_subset
    intro p hp
    have hpm : p.components ∈ m.sources.map Path.components := hs ▸ List.mem_map_of_mem hp
    obtain ⟨q, hq, e⟩ := List.mem_map.mp hpm
    exact e ▸ List.mem_map_of_mem (List.mem_flatMap.mpr ⟨m, hm, hq⟩)
  unfold ClassModel.join
  rw [h.kind_join_of_mem hm, h.parent_or_of_mem hm, himplements, hconstructors, hmethods, hfields,
    hconstants, hsources]

end Joins

/-! ## Folding a model in again -/

namespace FoldOutcome

variable {o p : FoldOutcome}

/-- The model after taking in models depends on the model before alone. -/
theorem model_foldl_congr (h : o.model = p.model) (models : List ClassModel) :
    (models.foldl add o).model = (models.foldl add p).model := by
  induction models generalizing o p with
  | nil => exact h
  | cons m r ih =>
    apply ih
    cases ho : o.model with
    | none => rw [add_of_none ho, add_of_none (h ▸ ho)]
    | some acc =>
      have hp : p.model = some acc := h ▸ ho
      by_cases hc : acc.Compatible m
      · rw [add_of_compatible ho hc, add_of_compatible hp hc]
      · obtain ⟨e, -, ha⟩ := add_of_not_compatible ho hc
        obtain ⟨f, -, hb⟩ := add_of_not_compatible hp hc
        rw [ha, hb]
        exact h

/-- A model that absorbs those it goes together with stays as it is. -/
theorem model_foldl_of_absorbed {acc : ClassModel} (ho : o.model = some acc) {models : List ClassModel}
    (h : ∀ m ∈ models, acc.Compatible m → acc.join m = acc) :
    (models.foldl add o).model = some acc := by
  induction models generalizing o with
  | nil => exact ho
  | cons m r ih =>
    obtain ⟨hm, hr⟩ := List.forall_mem_cons.mp h
    apply ih _ hr
    by_cases hc : acc.Compatible m
    · rw [add_of_compatible ho hc, hm hc]
    · obtain ⟨e, -, ha⟩ := add_of_not_compatible ho hc
      rw [ha]
      exact ho

end FoldOutcome

theorem model_foldModels_append_congr {l l' : List ClassModel}
    (h : (foldModels l).model = (foldModels l').model) (r : List ClassModel) :
    (foldModels (l ++ r)).model = (foldModels (l' ++ r)).model := by
  rw [foldModels_append, foldModels_append]
  exact FoldOutcome.model_foldl_congr h r

/-- A model was accepted exactly if the model folded in the end goes together with it. -/
theorem accepts_iff_compatible_folded {before after : List ClassModel} {m acc : ClassModel}
    (ho : (foldModels (before ++ m :: after)).model = some acc) :
    ((foldModels before).Accepts m ↔ acc.Compatible m) ∧
      ((foldModels before).Accepts m → m ∈ acceptedModels (before ++ m :: after)) := by
  have hne : before ++ m :: after ≠ [] := by simp
  obtain ⟨folded, hm, hj⟩ := joins_acceptedModels hne
  obtain rfl : folded = acc := Option.some.inj (hm.symm.trans ho)
  have hmem : (foldModels before).Accepts m → m ∈ acceptedModels (before ++ m :: after) := by
    intro h
    rw [acceptedModels_append, FoldOutcome.accepted_of_accepts h]
    exact List.mem_append_right _ List.mem_cons_self
  refine ⟨⟨fun h => hj.compatible_of_mem (hmem h), fun h => ?_⟩, hmem⟩
  rw [accepts_iff_forall_accepted]
  intro a ha
  refine (hj.compatible_iff m).mp h a ?_
  rw [acceptedModels_append]
  exact List.mem_append_left _ ha

/-- The folded model absorbs every model it is made of that it goes together with. -/
theorem join_folded_eq_self {models : List ClassModel} {m acc : ClassModel} (hm : m ∈ models)
    (hr : ∀ a ∈ models, a.Reachable) (ho : (foldModels models).model = some acc)
    (hc : acc.Compatible m) {s : List Path}
    (hs : s.map Path.components = m.sources.map Path.components) :
    acc.join { m with sources := s } = acc := by
  obtain ⟨folded, hf, hj⟩ := joins_acceptedModels (List.ne_nil_of_mem hm)
  obtain rfl : folded = acc := Option.some.inj (hf.symm.trans ho)
  have hw : ∀ a ∈ acceptedModels models, a.WellFormed := fun a ha =>
    (hr a (mem_of_mem_acceptedModels ha)).wellFormed
  obtain ⟨before, after, rfl⟩ := List.append_of_mem hm
  obtain ⟨hiff, hmem⟩ := accepts_iff_compatible_folded ho
  exact hj.join_eq_self hw (hmem (hiff.mpr hc)) hs

/-- What was accepted is absorbed, and what was rejected is rejected again. -/
theorem merge_folded {before after : List ClassModel} {m acc : ClassModel}
    (hr : ∀ a ∈ before ++ m :: after, a.Reachable)
    (ho : (foldModels (before ++ m :: after)).model = some acc) :
    ((foldModels before).Accepts m → acc.merge m = .ok acc) ∧
      (¬(foldModels before).Accepts m → ∃ e, acc.merge m = .error e) := by
  have hiff := (accepts_iff_compatible_folded ho).1
  constructor
  · intro h
    have hm : m ∈ before ++ m :: after := List.mem_append_right _ List.mem_cons_self
    have hj := join_folded_eq_self hm hr ho (hiff.mp h) rfl
    exact ClassModel.merge_eq_ok_iff.mpr ⟨hiff.mp h, hj.symm⟩
  · intro h
    exact ClassModel.not_compatible_iff_merge.mp (mt hiff.mpr h)

/-- Models that are the same as some that have been folded change nothing. -/
theorem model_foldModels_append_of_same {models again : List ClassModel}
    (hr : ∀ m ∈ models, m.Reachable) (hs : ∀ n ∈ again, ∃ m ∈ models, m.same n) :
    (foldModels (models ++ again)).model = (foldModels models).model := by
  rw [foldModels_append]
  cases ho : (foldModels models).model with
  | none =>
    -- nothing has been folded, so there is nothing to come again
    have hnil : models = [] := by
      by_contra hne
      obtain ⟨acc, ha, -⟩ := joins_acceptedModels hne
      rw [ho] at ha
      cases ha
    have hagain : again = [] := by
      rw [List.eq_nil_iff_forall_not_mem]
      intro n hn
      obtain ⟨m, hm, -⟩ := hs n hn
      rw [hnil] at hm
      cases hm
    rw [hagain]
    exact ho
  | some acc =>
    apply FoldOutcome.model_foldl_of_absorbed ho
    intro n hn hc
    obtain ⟨m, hm, hsame⟩ := hs n hn
    obtain ⟨s, rfl, hcomponents⟩ := ClassModel.eq_of_same hsame
    exact join_folded_eq_self hm hr ho ⟨hc.fullName, hc.kind, hc.parent⟩ hcomponents

theorem ClassModel.merge_self {m : ClassModel} (hm : m.Reachable) : m.merge m = .ok m := by
  have hj := (Joins.one m).join_eq_self (m := m) (by simpa using hm.wellFormed) List.mem_cons_self rfl
  exact merge_eq_ok_iff.mpr ⟨Compatible.refl m, hj.symm⟩

/-! ## Listing a root again -/

/-- If an item is listed again, what it gives is there again; errors are those of the shorter list. -/
theorem mapM_append_repeated {α β ε : Type} (f : α → Except ε β) (l₁ l₂ l₃ : List α) (a : α) :
    (∃ e, (l₁ ++ a :: (l₂ ++ l₃)).mapM f = .error e ∧
      (l₁ ++ a :: (l₂ ++ a :: l₃)).mapM f = .error e) ∨
    ∃ r₁ b r₂ r₃, (l₁ ++ a :: (l₂ ++ l₃)).mapM f = .ok (r₁ ++ b :: (r₂ ++ r₃)) ∧
      (l₁ ++ a :: (l₂ ++ a :: l₃)).mapM f = .ok (r₁ ++ b :: (r₂ ++ b :: r₃)) := by
  simp only [List.mapM_append, List.mapM_cons]
  cases l₁.mapM f with
  | error e => exact .inl ⟨e, rfl, rfl⟩
  | ok r₁ =>
    cases f a with
    | error e => exact .inl ⟨e, rfl, rfl⟩
    | ok b =>
      cases l₂.mapM f with
      | error e => exact .inl ⟨e, rfl, rfl⟩
      | ok r₂ =>
        cases l₃.mapM f with
        | error e => exact .inl ⟨e, rfl, rfl⟩
        | ok r₃ => exact .inr ⟨r₁, b, r₂, r₃, rfl, rfl⟩

namespace Extraction

theorem reachable_of_mem_models {x : Extraction} {m : ClassModel} (h : m ∈ x.models) : m.Reachable := by
  obtain ⟨r, -, h⟩ := List.mem_flatMap.mp h
  obtain ⟨p, -, h⟩ := List.mem_flatMap.mp h
  unfold RootReading.modelsOfPage at h
  split at h
  · next d _ =>
    rw [List.mem_singleton.mp h]
    unfold RootReading.fill
    split
    · exact .fill _ (.freeze d _)
    · exact .freeze d _
  · cases h

/-- Extractions that fold every class to the same model have one registry. -/
theorem registry_eq_of_model {x y : Extraction}
    (h : ∀ name, (x.foldClass name).model = (y.foldClass name).model) : x.registry = y.registry := by
  have hclasses : x.registry.classes = y.registry.classes := by
    apply OrderedMap.ext
    intro name
    exact (x.get?_registry name).trans ((h name).trans (y.get?_registry name).symm)
  exact congrArg Registry.mk hclasses

/-- The reading of a root adds nothing behind another reading of the same. -/
theorem registry_repeated (x₁ x₂ x₃ : List RootReading) (r : RootReading) :
    (Extraction.mk (x₁ ++ r :: (x₂ ++ r :: x₃))).registry =
      (Extraction.mk (x₁ ++ r :: (x₂ ++ x₃))).registry := by
  apply registry_eq_of_model
  intro name
  let only (l : List RootReading) : List ClassModel :=
    (l.flatMap RootReading.models).filter (·.fullName == name)
  have hmodel : (foldModels (only (x₁ ++ r :: x₂) ++ only [r])).model =
      (foldModels (only (x₁ ++ r :: x₂))).model := by
    apply model_foldModels_append_of_same
    · intro m hm
      exact reachable_of_mem_models (x := ⟨x₁ ++ r :: x₂⟩) (List.mem_filter.mp hm).1
    · intro m hm
      refine ⟨m, ?_, by simp [ClassModel.same]⟩
      simp only [only, List.flatMap_append, List.flatMap_cons, List.filter_append,
        List.mem_append] at hm ⊢
      exact .inr (.inl (hm.resolve_right (by simp)))
  have hfold := model_foldModels_append_congr hmodel (only x₃)
  simp only [only, ← List.filter_append, ← List.flatMap_append] at hfold
  simpa [foldClass, models, List.append_assoc] using hfold

/-- A root that is listed a second time changes neither the registry of a run nor its failure. -/
theorem run_repeated (fs : FileSystem) (c : Config) (l₁ l₂ l₃ : List Path) (root : Path) :
    (run fs { c with roots := l₁ ++ root :: (l₂ ++ root :: l₃) }).map (·.registry) =
      (run fs { c with roots := l₁ ++ root :: (l₂ ++ l₃) }).map (·.registry) := by
  unfold run collect
  rcases mapM_append_repeated (DocumentSet.collect fs c.selection c.reading.constantsFile)
    l₁ l₂ l₃ root with ⟨e, h, h'⟩ | ⟨d₁, d, d₂, d₃, h, h'⟩
  · simp only [h, h']
  · have hregistry := registry_repeated (d₁.map (RootReading.ofDocuments fs))
      (d₂.map (RootReading.ofDocuments fs)) (d₃.map (RootReading.ofDocuments fs))
      (RootReading.ofDocuments fs d)
    simp only [h, h', Except.mapError, bind, Except.bind, List.map_append, List.map_cons, hregistry]
    split
    · rfl
    · exact congrArg Except.ok hregistry

end Extraction

/-- What has been folded leaves no trace when it is folded in again, and what was rejected is rejected
again; so a documentation root that is listed again, anywhere behind its first place, changes no
registry. -/
theorem repetition_changes_nothing :
    (∀ models again : List ClassModel, (∀ m ∈ models, m.Reachable) →
      (∀ n ∈ again, ∃ m ∈ models, m.same n) →
      (foldModels (models ++ again)).model = (foldModels models).model) ∧
    (∀ before m after acc, (∀ a ∈ before ++ m :: after, a.Reachable) →
      (foldModels (before ++ m :: after)).model = some acc →
      ((foldModels before).Accepts m → acc.merge m = .ok acc) ∧
        (¬(foldModels before).Accepts m → ∃ e, acc.merge m = .error e)) ∧
    (∀ m : ClassModel, m.Reachable → m.merge m = .ok m) ∧
    ∀ (fs : FileSystem) (c : Config) (l₁ l₂ l₃ : List Path) (root : Path),
      (Extraction.run fs { c with roots := l₁ ++ root :: (l₂ ++ root :: l₃) }).map (·.registry) =
        (Extraction.run fs { c with roots := l₁ ++ root :: (l₂ ++ l₃) }).map (·.registry) := by
  refine ⟨?_, ?_, ?_, Extraction.run_repeated⟩
  · intro models again hr hs
    exact model_foldModels_append_of_same hr hs
  · intro before m after acc hr ho
    exact merge_folded hr ho
  · intro m hm
    exact ClassModel.merge_self hm

/-- Of two pages of one class and one that conflicts with them, the first comes again with its source
written differently. -/
theorem repetition_of_finalPage :
    let again := { finalPage with sources := [⟨"a//C.html"⟩] }
    (∀ m ∈ [finalPage, interfacePage, regularPage], m.Reachable) ∧ finalPage.same again = true ∧
      (foldModels ([finalPage, interfacePage, regularPage] ++ [again])).model =
        (foldModels [finalPage, interfacePage, regularPage]).model ∧
      (∃ acc, (foldModels [finalPage, interfacePage, regularPage]).model = some acc ∧
        acc.merge finalPage = .ok acc ∧ ∃ e, acc.merge interfacePage = .error e) ∧
      finalPage.merge finalPage = .ok finalPage := by
  intro again
  have hr := reachable_of_mem_pages
  have hsame : finalPage.same again = true := by decide +kernel
  have hall : ∀ n ∈ [again], ∃ m ∈ [finalPage, interfacePage, regularPage], m.same n := by
    intro n hn
    rw [List.mem_singleton.mp hn]
    exact ⟨finalPage, List.mem_cons_self, hsame⟩
  obtain ⟨hfold, hmerge, hself, -⟩ := repetition_changes_nothing
  obtain ⟨acc, ho, -⟩ := joins_acceptedModels
    (List.cons_ne_nil finalPage [interfacePage, regularPage])
  have hfirst := (hmerge [] finalPage [interfacePage, regularPage] acc hr ho).1 (by decide +kernel)
  have hsecond := (hmerge [finalPage] interfacePage [regularPage] acc hr ho).2 (by decide +kernel)
  exact ⟨hr, hsame, hfold _ _ hr hall, ⟨acc, ho, hfirst, hsecond⟩, hself finalPage (.freeze _ _)⟩

end ApiDoc
