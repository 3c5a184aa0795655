import ApiDoc.ClassModel.Constants
import ApiDoc.Proofs.Merge

/-!
# What holds of every model

Models come from freezing declarations, filling in constants and merging (`Reachable`).  A frozen
model is well formed whatever was declared, and filling and merging keep it so:

    Reachable m → m.WellFormed                                  (Reachable.wellFormed)

Well-formedness says that the entries of each list of members differ in their keys, which is what
the laws of absorption ask for, and that fields, constants and parents are of the right sort.
-/

namespace ApiDoc

namespace ClassModel

/-- The models that freezing, filling in constants and merging lead to. -/
inductive Reachable : ClassModel → Prop
  | freeze (d : ClassDecl) (source : Option Path) : Reachable (d.freeze source)
  | fill {m : ClassModel} (values : ConstantValues) (h : Reachable m) : Reachable (m.fill values)
  | merge {a b m : ClassModel} (ha : Reachable a) (hb : Reachable b) (h : a.merge b = .ok m) :
      Reachable m

/-- Members differ in their keys, and each stands in the list it belongs to. -/
structure WellFormed (m : ClassModel) : Prop where
  parent_of_isInterface : m.isInterface = true → m.parent = none
  parent_not_root : ∀ p, m.parent = some p → p.isRoot = false
  constructors : (m.constructors.map Constructor.key).Nodup
  methods : (m.methods.map Method.key).Nodup
  fields : m.fields.Nodup
  fields_plain : ∀ f ∈ m.fields, constantType? f.flags f.type = none
  constants : (m.constants.map Constant.field).Nodup
  constants_typed : ∀ c ∈ m.constants,
    constantType? c.field.flags c.field.type = some c.constantType
  sources : (m.sources.map Path.components).Nodup

end ClassModel

/-! ## Freezing -/

namespace ClassDecl

/-- A plain field is no constant. -/
theorem constantType?_of_mem_plainFields {d : ClassDecl} {f : Field} (h : f ∈ d.plainFields) :
    constantType? f.flags f.type = none := by
  unfold plainFields at h
  obtain ⟨g, -, hg⟩ := List.mem_filterMap.mp h
  unfold FieldDecl.classify at hg
  cases ht : constantType? g.flags g.type with
  | some t =>
    rw [ht] at hg
    cases hg
  | none =>
    rw [ht] at hg
    cases hg
    exact ht

/-- A constant has the type its declaration makes it have. -/
theorem constantType?_of_mem_constants {d : ClassDecl} {c : Constant} (h : c ∈ d.constants) :
    constantType? c.field.flags c.field.type = some c.constantType := by
  unfold constants at h
  obtain ⟨g, -, hg⟩ := List.mem_filterMap.mp h
  unfold FieldDecl.classify at hg
  cases ht : constantType? g.flags g.type with
  | none =>
    rw [ht] at hg
    cases hg
  | some t =>
    rw [ht] at hg
    cases hg
    exact ht

theorem wellFormed_freeze (d : ClassDecl) (source : Option Path) : (d.freeze source).WellFormed where
  parent_of_isInterface h := if_pos h
  parent_not_root p hp := by
    have hp : (if d.kind.isInterface then none else d.properParent) = some p := hp
    split at hp
    · cases hp
    · unfold properParent at hp
      have := (Option.filter_eq_some_iff.mp hp).2
      simpa using this
  constructors := Absorption.nodup_addAll_nil constructorAbsorption_lawful _
  methods := Absorption.nodup_addAll_nil methodAbsorption_lawful _
  fields := by
    have := Absorption.nodup_addAll_nil (distinct_lawful (α := Field)) d.plainFields
    rwa [List.map_id] at this
  fields_plain := Absorption.forall_mem_addAll (fun _ _ h => h) (List.forall_mem_nil _)
    fun _ hf => constantType?_of_mem_plainFields hf
  constants := Absorption.nodup_addAll_nil constantAbsorption_lawful _
  constants_typed := Absorption.forall_mem_addAll (fun _ _ h => h) (List.forall_mem_nil _)
    fun _ hc => constantType?_of_mem_constants hc
  sources := by
    cases source with
    | none => exact List.nodup_nil
    | some p => exact List.nodup_cons.mpr ⟨List.not_mem_nil, List.nodup_nil⟩

end ClassDecl

/-! ## Filling in constants -/

/-- Giving a value changes nothing that does not depend on values. -/
theorem map_setValue {β : Type} {f : Constant → β} (hf : ∀ c v, f { c with value := v } = f c)
    (name value : String) (l : List Constant) : (setValue name value l).map f = l.map f := by
  induction l with
  | nil => rfl
  | cons c r ih =>
    unfold setValue
    split
    · rw [List.map_cons, List.map_cons, hf]
    · rw [List.map_cons, List.map_cons, ih]

namespace ClassModel

theorem map_constants_fill {β : Type} {f : Constant → β} (hf : ∀ c v, f { c with value := v } = f c)
    (m : ClassModel) (values : ConstantValues) :
    (m.fill values).constants.map f = m.constants.map f := by
  show (values.entries.foldl (fun l e => setValue e.1 e.2 l) m.constants).map f = _
  refine List.foldlRecOn (motive := fun l : List Constant => l.map f = m.constants.map f)
    values.entries _ rfl ?_
  intro l hl e _
  rw [map_setValue hf, hl]

theorem wellFormed_fill {m : ClassModel} (values : ConstantValues) (h : m.WellFormed) :
    (m.fill values).WellFormed where
  parent_of_isInterface := h.parent_of_isInterface
  parent_not_root := h.parent_not_root
  constructors := h.constructors
  methods := h.methods
  fields := h.fields
  fields_plain := h.fields_plain
  constants := by
    rw [map_constants_fill (fun _ _ => rfl)]
    exact h.constants
  constants_typed c hc := by
    -- whether a constant is well typed is seen from its declaration and type, which stay
    have hm : (c.field, c.constantType) ∈ m.constants.map fun c => (c.field, c.constantType) := by
      rw [← map_constants_fill (fun _ _ => rfl) m values]
      exact List.mem_map_of_mem hc
    obtain ⟨c', hc', e⟩ := List.mem_map.mp hm
    have := h.constants_typed c' hc'
    rw [Prod.mk.injEq] at e
    rwa [e.1, e.2] at this
  sources := h.sources

/-! ## Merging -/

theorem wellFormed_join {a b : ClassModel} (ha : a.WellFormed) (hb : b.WellFormed) :
    (a.join b).WellFormed where
  parent_of_isInterface h := by
    have hk : a.kind.join b.kind = .interface := by
      simpa [isInterface, ClassKind.isInterface, join] using h
    rw [ClassKind.join_eq_interface_iff] at hk
    have pa : a.parent = none := ha.parent_of_isInterface (by simp [isInterface, hk.1]; rfl)
    have pb : b.parent = none := hb.parent_of_isInterface (by simp [isInterface, hk.2]; rfl)
    show a.parent.or b.parent = none
    rw [pa, pb]
    rfl
  parent_not_root p hp := by
    have hp : a.parent.or b.parent = some p := hp
    rcases Option.or_eq_some_iff.mp hp with h | ⟨-, h⟩
    · exact ha.parent_not_root p h
    · exact hb.parent_not_root p h
  constructors := Absorption.nodup_addAll constructorAbsorption_lawful _ ha.constructors
  methods := Absorption.nodup_addAll methodAbsorption_lawful _ ha.methods
  fields := by
    have := Absorption.nodup_addAll_nil (distinct_lawful (α := Field)) (a.fields ++ b.fields)
    rwa [List.map_id] at this
  fields_plain := Absorption.forall_mem_addAll (fun _ _ h => h) (List.forall_mem_nil _)
    fun f hf => (List.mem_append.mp hf).elim (ha.fields_plain f) (hb.fields_plain f)
  constants := Absorption.nodup_addAll_nil constantAbsorption_lawful _
  constants_typed := Absorption.forall_mem_addAll (fun _ _ h => h) (List.forall_mem_nil _)
    fun c hc => (List.mem_append.mp hc).elim (ha.constants_typed c) (hb.constants_typed c)
  sources := Absorption.nodup_addAll_nil sourceAbsorption_lawful _

/-- Every model is well formed. -/
theorem Reachable.wellFormed {m : ClassModel} (h : Reachable m) : m.WellFormed := by
  induction h with
  | freeze d source => exact ClassDecl.wellFormed_freeze d source
  | fill values _ ih => exact wellFormed_fill values ih
  | merge _ _ h iha ihb =>
    rw [(merge_eq_ok_iff.mp h).2]
    exact wellFormed_join iha ihb

/-- Whatever was declared, filled in and merged: an interface has no parent and no parent is the root
class; no two entries of a list are the same member; fields are no constants, and constants have the
type their declaration makes them have. -/
theorem members_distinct_of_reachable {m : ClassModel} (h : Reachable m) :
    (m.isInterface = true → m.parent = none) ∧
    (∀ p, m.parent = some p → ¬(p.name = "java.lang.Object" ∧ p.dims = 0)) ∧
    m.constructors.Pairwise (fun c d => c.isSame d = false) ∧
    m.methods.Pairwise (fun n o => n.isSame o = false) ∧
    m.fields.Pairwise (fun f g => f ≠ g) ∧
    (∀ f ∈ m.fields, constantType? f.flags f.type = none) ∧
    m.constants.Pairwise (fun c d => c.field ≠ d.field) ∧
    (∀ c ∈ m.constants, constantType? c.field.flags c.field.type = some c.constantType) ∧
    m.sources.Pairwise (fun p q => p.same q = false) := by
  have w := h.wellFormed
  refine ⟨w.parent_of_isInterface, ?_, ?_, ?_, w.fields, w.fields_plain, ?_, w.constants_typed, ?_⟩
  · rintro p hp ⟨hn, hd⟩
    have := w.parent_not_root p hp
    rw [TypeRef.isRoot, hn, hd] at this
    cases this
  · exact (List.pairwise_map.mp w.constructors).imp fun hne =>
      Absorption.same_eq_false constructorAbsorption_lawful hne
  · exact (List.pairwise_map.mp w.methods).imp fun hne =>
      Absorption.same_eq_false methodAbsorption_lawful hne
  · exact List.pairwise_map.mp w.constants
  · exact (List.pairwise_map.mp w.sources).imp fun hne =>
      Absorption.same_eq_false sourceAbsorption_lawful hne

end ClassModel

/-- A page that repeats its members. -/
def repeatingDecl : ClassDecl where
  package := "p"
  name := "C"
  kind := .final
  parent := some (.ofName "java.lang.Object")
  implements := []
  fields := [⟨.isPublic, .staticFinal, "LIMIT", .ofName "int", none⟩,
    ⟨.isPublic, .staticFinal, "LIMIT", .ofName "int", some "1"⟩,
    ⟨.isPrivate, .none, "x", .ofName "int", none⟩, ⟨.isPrivate, .none, "x", .ofName "int", none⟩]
  constructors := [⟨.isPublic, [⟨.ofName "int", "n"⟩], []⟩,
    ⟨.isPublic, [⟨.ofName "int", "size"⟩], [.ofName "p.E"]⟩]
  methods := [⟨.isPublic, .none, "size", .ofName "int", [], [.ofName "p.E"]⟩,
    ⟨.isPublic, .none, "size", .ofName "int", [], [.ofName "p.F"]⟩]

/-- Two sources of the page, the second with values filled in and its path written differently. -/
theorem members_distinct_of_repeatingDecl :
    ∃ m, (repeatingDecl.freeze (some ⟨"a/C.html"⟩)).merge
        ((repeatingDecl.freeze (some ⟨"a//C.html"⟩)).fill (.ofList [("LIMIT", "2")])) = .ok m ∧
      m.Reachable ∧ (m.methods.length = 1 ∧ m.constants.length = 1 ∧ m.sources.length = 1) ∧
      (∀ p, m.parent = some p → ¬(p.name = "java.lang.Object" ∧ p.dims = 0)) ∧
      m.constructors.Pairwise (fun c d => c.isSame d = false) ∧
      (∀ c ∈ m.constants, constantType? c.field.flags c.field.type = some c.constantType) ∧
      m.sources.Pairwise (fun p q => p.same q = false) := by
  have hm := ClassModel.merge_eq_ok_iff
    (a := repeatingDecl.freeze (some ⟨"a/C.html"⟩))
    (b := (repeatingDecl.freeze (some ⟨"a//C.html"⟩)).fill (.ofList [("LIMIT", "2")])) |>.mpr
    ⟨⟨rfl, rfl, fun s t hs _ => by cases hs⟩, rfl⟩
  have hr := ClassModel.Reachable.merge (.freeze _ _) (.fill _ (.freeze _ _)) hm
  obtain ⟨-, hp, hc, -, -, -, -, ht, hs⟩ := ClassModel.members_distinct_of_reachable hr
  exact ⟨_, hm, hr, by decide +kernel, hp, hc, ht, hs⟩

end ApiDoc
