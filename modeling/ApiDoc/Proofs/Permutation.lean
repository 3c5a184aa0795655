import ApiDoc.Proofs.Acceptance
import Mathlib.Data.List.Induction
import Mathlib.Data.List.Pairwise

/-!
# Folding models in another order

Two models that conflict do so from both sides, with the sides of the error exchanged
(`ClassModel.merge_error_swap`).  Models that go together two by two fold without conflicts in every
order, and the results have the same content: only the order of entries, the names of arguments and the
values of constants on which the models differ come from the order (`foldModels_perm`).
-/

namespace ApiDoc

/-! ## Errors from both sides -/

namespace MergeError

/-- The error with its two sides exchanged. -/
def swap : MergeError → MergeError
  | .nameMismatch left right => .nameMismatch right left
  | .interfaceWithClass c left right => .interfaceWithClass c right left
  | .abstractWithConcrete c left right => .abstractWithConcrete c right left
  | .parentConflict c left right => .parentConflict c right left

@[simp] theorem swap_swap (e : MergeError) : e.swap.swap = e := by
  cases e <;> rfl

end MergeError

theorem mergeKind_swap {className : String} {k l : ClassKind} {e : MergeError}
    (h : mergeKind className k l = .error e) : mergeKind className l k = .error e.swap := by
  cases k <;> cases l <;> simp [mergeKind] at h <;> subst h <;> rfl

theorem mergeParent_swap {className : String} {p q : Option TypeRef} {e : MergeError}
    (h : mergeParent className p q = .error e) : mergeParent className q p = .error e.swap := by
  cases p with
  | none => cases h
  | some s =>
    cases q with
    | none => cases h
    | some t =>
      simp only [mergeParent] at h ⊢
      by_cases hst : s = t
      · rw [if_pos hst] at h
        cases h
      · rw [if_neg hst] at h
        cases h
        exact if_neg (Ne.symm hst)

namespace ClassModel

/-- Names are compared first, then kinds, then parents. -/
theorem merge_eq_error_iff {a b : ClassModel} {e : MergeError} :
    a.merge b = .error e ↔
      (a.fullName ≠ b.fullName ∧ e = .nameMismatch a.fullName b.fullName) ∨
      (a.fullName = b.fullName ∧ mergeKind a.fullName a.kind b.kind = .error e) ∨
      (a.fullName = b.fullName ∧ a.kind.family = b.kind.family ∧
        mergeParent a.fullName a.parent b.parent = .error e) := by
  unfold merge
  by_cases hn : a.fullName = b.fullName
  · rw [if_neg (not_not_intro hn)]
    simp only [hn, ne_eq, not_true_eq_false, false_and, true_and, false_or]
    cases hk : mergeKind b.fullName a.kind b.kind with
    | error f =>
      have hfam : a.kind.family ≠ b.kind.family := by
        intro hf
        rw [mergeKind_eq_ok_iff.mpr ⟨hf, rfl⟩] at hk
        cases hk
      simp [bind, Except.bind, hfam]
    | ok kind =>
      have hfam : a.kind.family = b.kind.family := (mergeKind_eq_ok_iff.mp hk).1
      cases hp : mergeParent b.fullName a.parent b.parent with
      | error f => simp [bind, Except.bind, hfam]
      | ok parent => simp [bind, Except.bind, pure, Except.pure]
  · rw [if_pos hn]
    simp [hn, eq_comm]

/-- A conflict from one side is one from the other side. -/
theorem merge_error_swap {a b : ClassModel} {e : MergeError} (h : a.merge b = .error e) :
    b.merge a = .error e.swap := by
  rw [merge_eq_error_iff] at h ⊢
  rcases h with ⟨hn, rfl⟩ | ⟨hn, hk⟩ | ⟨hn, hfam, hp⟩
  · exact .inl ⟨Ne.symm hn, rfl⟩
  · exact .inr (.inl ⟨hn.symm, hn ▸ mergeKind_swap hk⟩)
  · exact .inr (.inr ⟨hn.symm, hfam.symm, hn ▸ mergeParent_swap hp⟩)

end ClassModel

/-! ## Content -/

/-- Models that differ at most in the order of their entries, in the names of arguments and in the
values of constants. -/
structure SameContent (m n : ClassModel) : Prop where
  kind : m.kind = n.kind
  parent : m.parent = n.parent
  implements : m.implements = n.implements
  constructors : ∀ k s, (∃ c ∈ m.constructors, c.key = k ∧ c.throws = s) ↔
    ∃ c ∈ n.constructors, c.key = k ∧ c.throws = s
  methods : ∀ k s, (∃ o ∈ m.methods, o.key = k ∧ o.throws = s) ↔
    ∃ o ∈ n.methods, o.key = k ∧ o.throws = s
  fields : ∀ f, f ∈ m.fields ↔ f ∈ n.fields
  constants : ∀ f, (∃ c ∈ m.constants, c.field = f) ↔ ∃ c ∈ n.constants, c.field = f
  sources : ∀ p, (∃ q ∈ m.sources, q.components = p) ↔ ∃ q ∈ n.sources, q.components = p

/-- The known values of a constant are all the same. -/
def ValuesAgree (models : List ClassModel) (f : Field) : Prop :=
  ∀ a ∈ models, ∀ b ∈ models, ∀ c ∈ a.constants, ∀ d ∈ b.constants, c.field = f → d.field = f →
    ∀ v w, c.value = some v → d.value = some w → v = w

section
variable {α κ : Type} [DecidableEq κ] {key : α → κ} {arguments : α → List Argument}
  {throws : α → OrderedSet TypeRef} {items items' entries entries' : List α}

/-- Entries gathered from the same items have the same keys with the same exceptions. -/
theorem Gathers.exists_of_exists (h : Gathers key arguments throws items entries)
    (h' : Gathers key arguments throws items' entries') (hi : ∀ x, x ∈ items ↔ x ∈ items') {k : κ}
    {s : OrderedSet TypeRef} (he : ∃ e ∈ entries, key e = k ∧ throws e = s) :
    ∃ e ∈ entries', key e = k ∧ throws e = s := by
  obtain ⟨e, he, rfl, rfl⟩ := he
  have hkey : key e ∈ items.map key := by
    rw [← List.mem_eraseDups, ← h.keys]
    exact List.mem_map_of_mem he
  have hkey' : key e ∈ entries'.map key := by
    rw [h'.keys, List.mem_eraseDups]
    obtain ⟨x, hx, hxe⟩ := List.mem_map.mp hkey
    exact hxe ▸ List.mem_map_of_mem ((hi x).mp hx)
  obtain ⟨e', he', hee⟩ := List.mem_map.mp hkey'
  refine ⟨e', he', hee, ?_⟩
  ext t
  rw [h.mem_throws e he, h'.mem_throws e' he', hee]
  simp only [hi]

theorem Gathers.exists_iff (h : Gathers key arguments throws items entries)
    (h' : Gathers key arguments throws items' entries') (hi : ∀ x, x ∈ items ↔ x ∈ items') (k : κ)
    (s : OrderedSet TypeRef) :
    (∃ e ∈ entries, key e = k ∧ throws e = s) ↔ ∃ e ∈ entries', key e = k ∧ throws e = s :=
  ⟨h.exists_of_exists h' hi, h'.exists_of_exists h fun x => (hi x).symm⟩

end

namespace Combines

variable {l l' : List ClassModel} {m m' : ClassModel}

/-- The kind is decided by the kinds that occur. -/
theorem kind_eq (h : Combines l m) (h' : Combines l' m') (hl : ∀ a, a ∈ l ↔ a ∈ l') (hne : l ≠ []) :
    m.kind = m'.kind := by
  by_cases hmixed : (∃ a ∈ l, a.kind = .final) ∧ ∃ a ∈ l, a.kind = .regular
  · have hmixed' : (∃ a ∈ l', a.kind = .final) ∧ ∃ a ∈ l', a.kind = .regular := by
      simpa only [hl] using hmixed
    rw [h.kind_mixed hmixed.1 hmixed.2, h'.kind_mixed hmixed'.1 hmixed'.2]
  · have hmixed' : ¬((∃ a ∈ l', a.kind = .final) ∧ ∃ a ∈ l', a.kind = .regular) := by
      simpa only [hl] using hmixed
    obtain ⟨a, ha⟩ := List.exists_mem_of_ne_nil l hne
    rw [← h.kind_common hmixed a ha, ← h'.kind_common hmixed' a ((hl a).mp ha)]

/-- A combination depends on the order of the models in nothing that `SameContent` speaks of. -/
theorem sameContent (h : Combines l m) (h' : Combines l' m') (hl : ∀ a, a ∈ l ↔ a ∈ l')
    (hne : l ≠ []) : SameContent m m' where
  kind := h.kind_eq h' hl hne
  parent := by
    ext p
    rw [h.parent, h'.parent]
    simp only [hl]
  implements := by
    ext t
    rw [h.implements, h'.implements]
    simp only [hl]
  constructors := h.constructors.exists_iff h'.constructors fun x => by simp only [List.mem_flatMap, hl]
  methods := h.methods.exists_iff h'.methods fun x => by simp only [List.mem_flatMap, hl]
  fields f := by
    rw [h.fields, h'.fields, List.mem_eraseDups, List.mem_eraseDups]
    simp only [List.mem_flatMap, hl]
  constants f := by
    rw [← List.mem_map, ← List.mem_map, h.constants, h'.constants, List.mem_eraseDups,
      List.mem_eraseDups]
    simp only [List.mem_map, List.mem_flatMap, hl]
  sources p := by
    rw [← List.mem_map, ← List.mem_map, h.sources, h'.sources, List.mem_eraseDups,
      List.mem_eraseDups]
    simp only [List.mem_map, List.mem_flatMap, hl]

/-- A value that is known comes from one of the models. -/
theorem exists_of_value (h : Combines l m) {c : Constant} (hc : c ∈ m.constants) {v : String}
    (hv : c.value = some v) : ∃ a ∈ l, ∃ d ∈ a.constants, d.field = c.field ∧ d.value = some v := by
  rw [h.constants_value c hc] at hv
  obtain ⟨d, hd, hdv⟩ := List.exists_of_findSome?_eq_some hv
  obtain ⟨hd, hf⟩ := List.mem_filter.mp hd
  obtain ⟨a, ha, hda⟩ := List.mem_flatMap.mp hd
  exact ⟨a, ha, d, hda, by simpa using hf, hdv⟩

/-- A value that one of the models knows is known, be it this one or another. -/
theorem value_isSome (h : Combines l m) {c : Constant} (hc : c ∈ m.constants) {a : ClassModel}
    (ha : a ∈ l) {d : Constant} (hd : d ∈ a.constants) (hf : d.field = c.field)
    (hv : d.value.isSome) : c.value.isSome := by
  rw [h.constants_value c hc, List.findSome?_isSome_iff]
  refine ⟨d, List.mem_filter.mpr ⟨List.mem_flatMap.mpr ⟨a, ha, hd⟩, ?_⟩, hv⟩
  simpa using hf

/-- Where the known values agree, the order of the models does not show. -/
theorem value_eq (h : Combines l m) (h' : Combines l' m') (hl : ∀ a, a ∈ l ↔ a ∈ l') {f : Field}
    (hv : ValuesAgree l f) {c d : Constant} (hc : c ∈ m.constants) (hd : d ∈ m'.constants)
    (hcf : c.field = f) (hdf : d.field = f) : c.value = d.value := by
  have hcd : c.field = d.field := hcf.trans hdf.symm
  cases hcv : c.value with
  | none =>
    cases hdv : d.value with
    | none => rfl
    | some w =>
      obtain ⟨a, ha, x, hx, hxf, hxv⟩ := h'.exists_of_value hd hdv
      have := h.value_isSome hc ((hl a).mpr ha) hx (hxf.trans hcd.symm) (by simp [hxv])
      simp [hcv] at this
  | some v =>
    obtain ⟨a, ha, x, hx, hxf, hxv⟩ := h.exists_of_value hc hcv
    have hsome := h'.value_isSome hd ((hl a).mp ha) hx (hxf.trans hcd) (by simp [hxv])
    obtain ⟨w, hdv⟩ := Option.isSome_iff_exists.mp hsome
    obtain ⟨b, hb, y, hy, hyf, hyv⟩ := h'.exists_of_value hd hdv
    rw [hdv, hv a ha b ((hl b).mpr hb) x hx y hy (hxf.trans hcf) (hyf.trans hdf) v w hxv hyv]

end Combines

/-! ## Folding -/

/-- Models that go together two by two have a join. -/
theorem exists_joins_of_pairwise {l : List ClassModel} (hne : l ≠ [])
    (h : l.Pairwise ClassModel.Compatible) : ∃ m, Joins l m := by
  induction l using List.reverseRecOn with
  | nil => exact absurd rfl hne
  | append_singleton l a ih =>
    obtain ⟨hl, -, hla⟩ := List.pairwise_append.mp h
    by_cases hnil : l = []
    · subst hnil
      exact ⟨a, .one a⟩
    · obtain ⟨m, hj⟩ := ih hnil hl
      have hc : m.Compatible a := (hj.compatible_iff a).mpr fun b hb => hla b hb a List.mem_cons_self
      exact ⟨m.join a, .snoc hj hc⟩

/-- Conflicts are the same from both sides.  Models that go together two by two fold without conflicts
in every order, to models of the same content, in which constants have the same values unless the models
know different ones. -/
theorem foldModels_perm :
    (∀ (a b : ClassModel) (e : MergeError), a.merge b = .error e ↔ b.merge a = .error e.swap) ∧
    ∀ l l' : List ClassModel, l ≠ [] → (∀ m ∈ l, m.Reachable) →
      l.Pairwise (fun a b => ∃ m, a.merge b = .ok m) → l.Perm l' →
      ∃ m m', foldModels l = ⟨some m, l.length - 1, []⟩ ∧ foldModels l' = ⟨some m', l.length - 1, []⟩ ∧
        SameContent m m' ∧
        ∀ f, ValuesAgree l f → ∀ c ∈ m.constants, ∀ d ∈ m'.constants,
          c.field = f → d.field = f → c.value = d.value := by
  constructor
  · intro a b e
    refine ⟨ClassModel.merge_error_swap, fun h => ?_⟩
    have := ClassModel.merge_error_swap h
    rwa [MergeError.swap_swap] at this
  · intro l l' hne hr hpair hperm
    have hl : l.Pairwise ClassModel.Compatible :=
      hpair.imp fun h => ClassModel.compatible_iff_merge.mpr h
    have hl' : l'.Pairwise ClassModel.Compatible := hl.perm hperm fun h => h.symm
    have hmem : ∀ a, a ∈ l ↔ a ∈ l' := fun a => hperm.mem_iff
    have hne' : l' ≠ [] := fun e => hne (List.perm_nil.mp (e ▸ hperm))
    obtain ⟨m, hj⟩ := exists_joins_of_pairwise hne hl
    obtain ⟨m', hj'⟩ := exists_joins_of_pairwise hne' hl'
    have hc := hj.combines fun a ha => (hr a ha).wellFormed
    have hc' := hj'.combines fun a ha => (hr a ((hmem a).mpr ha)).wellFormed
    refine ⟨m, m', hj.foldModels_eq, hperm.length_eq ▸ hj'.foldModels_eq, ?_, ?_⟩
    · exact hc.sameContent hc' hmem hne
    · intro f hf c hcm d hdm hcf hdf
      exact hc.value_eq hc' hmem hf hcm hdm hcf hdf

/-- A page of the class of `finalPage`, with a parent and without further values. -/
def derivedPage : ClassModel :=
  { repeatingDecl with kind := .regular, parent := some (.ofName "p.B") }.freeze (some ⟨"c/C.html"⟩)

/-- The final page comes first, then last; the value of the constant is the same. -/
theorem foldModels_perm_of_finalPage :
    [finalPage, derivedPage].Pairwise (fun a b => ∃ m, a.merge b = .ok m) ∧
      finalPage.merge interfacePage = .error (.interfaceWithClass "p.C" .final .interface) ∧
      interfacePage.merge finalPage = .error (.interfaceWithClass "p.C" .interface .final) ∧
      ∃ m m', foldModels [finalPage, derivedPage] = ⟨some m, 1, []⟩ ∧
        foldModels [derivedPage, finalPage] = ⟨some m', 1, []⟩ ∧ SameContent m m' ∧
        m.kind = .regular ∧ m'.kind = .regular ∧
        ∀ c ∈ m.constants, ∀ d ∈ m'.constants, c.field = d.field → c.value = d.value := by
  obtain ⟨hswap, hfold⟩ := foldModels_perm
  have hconflict : finalPage.merge interfacePage =
      .error (.interfaceWithClass "p.C" .final .interface) := rfl
  have hc : finalPage.Compatible derivedPage := ⟨rfl, rfl, fun s t hs _ => by cases hs⟩
  have hpair : [finalPage, derivedPage].Pairwise (fun a b => ∃ m, a.merge b = .ok m) :=
    List.pairwise_pair.mpr (ClassModel.compatible_iff_merge.mp hc)
  have hr : ∀ m ∈ [finalPage, derivedPage], m.Reachable := by
    intro m hm
    rcases List.mem_cons.mp hm with rfl | hm
    · exact .freeze _ _
    · rw [List.mem_singleton.mp hm]
      exact .freeze _ _
  have hvalue : ∀ a ∈ [finalPage, derivedPage], ∀ c ∈ a.constants, c.value = some "1" := by
    decide +kernel
  have hagree : ∀ f, ValuesAgree [finalPage, derivedPage] f := by
    intro f a ha b hb c hc d hd _ _ v w hv hw
    have hv' := (hvalue a ha c hc).symm.trans hv
    have hw' := (hvalue b hb d hd).symm.trans hw
    exact Option.some.inj (hv'.symm.trans hw')
  obtain ⟨m, m', hm, hm', hsame, hvalues⟩ := hfold [finalPage, derivedPage] [derivedPage, finalPage]
    (List.cons_ne_nil _ _) hr hpair (List.Perm.swap _ _ _)
  have hkind : m.kind = .regular := by
    have hmodel := congrArg FoldOutcome.model hm
    exact congrArg (·.elim ClassKind.regular ClassModel.kind) hmodel.symm
  refine ⟨hpair, hconflict, (hswap _ _ _).mp hconflict, m, m', hm, hm', hsame, hkind,
    hsame.kind.symm.trans hkind, ?_⟩
  intro c hc d hd e
  exact hvalues c.field (hagree _) c hc d hd rfl e.symm

end ApiDoc
