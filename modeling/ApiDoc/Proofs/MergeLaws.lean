import ApiDoc.Proofs.WellFormed

/-!
# Laws of merging

Of three models it does not matter which two are merged first: both ways succeed for the same models,
those of which any two are compatible, and give the same model (`merge_assoc`).

Freezing turns concatenation into merging: a page that declares the members of two pages of one class
freezes to the merge of what the two pages freeze to (`freeze_append`).
-/

namespace ApiDoc

namespace ClassModel

/-! ## Grouping -/

/-- Joins may be grouped either way if the members of the middle model differ in their keys. -/
theorem join_assoc (a : ClassModel) {b : ClassModel} (c : ClassModel) (hb : b.WellFormed) :
    (a.join b).join c = a.join (b.join c) := by
  have hf := Absorption.addAll_nil_addAll_nil_append (distinct_lawful (α := Field))
  have hf' := Absorption.addAll_nil_append_addAll_nil (distinct_lawful (α := Field))
  have hc := Absorption.addAll_nil_addAll_nil_append constantAbsorption_lawful
  have hc' := Absorption.addAll_nil_append_addAll_nil constantAbsorption_lawful
  have hs := Absorption.addAll_nil_addAll_nil_append sourceAbsorption_lawful
  have hs' := Absorption.addAll_nil_append_addAll_nil sourceAbsorption_lawful
  simp only [join, mk.injEq, true_and]
  refine ⟨ClassKind.join_assoc .., Option.or_assoc, OrderedSet.union_assoc .., ?_, ?_, ?_, ?_, ?_⟩
  · exact Absorption.addAll_assoc constructorAbsorption_lawful _ _ hb.constructors
  · exact Absorption.addAll_assoc methodAbsorption_lawful _ _ hb.methods
  · rw [hf, hf', List.append_assoc]
  · rw [hc, hc', List.append_assoc]
  · rw [hs, hs', List.append_assoc]

/-- Either way the three models have to be compatible two by two. -/
theorem compatible_assoc {a b c : ClassModel} :
    a.Compatible b ∧ (a.join b).Compatible c ↔ b.Compatible c ∧ a.Compatible (b.join c) := by
  constructor
  · rintro ⟨hab, h⟩
    obtain ⟨hac, hbc⟩ := (compatible_join_left hab).mp h
    exact ⟨hbc, (compatible_join_right hbc).mpr ⟨hab, hac⟩⟩
  · rintro ⟨hbc, h⟩
    obtain ⟨hab, hac⟩ := (compatible_join_right hbc).mp h
    exact ⟨hab, (compatible_join_left hab).mpr ⟨hac, hbc⟩⟩

/-- Merging is associative, failures included: merging from the left gives a model exactly if merging
from the right gives that model. -/
theorem merge_assoc {a b c : ClassModel} (hb : Reachable b) (m : ClassModel) :
    (∃ ab, a.merge b = .ok ab ∧ ab.merge c = .ok m) ↔
      ∃ bc, b.merge c = .ok bc ∧ a.merge bc = .ok m := by
  simp only [merge_eq_ok_iff]
  constructor
  · rintro ⟨ab, ⟨hab, rfl⟩, h, rfl⟩
    obtain ⟨hbc, ha⟩ := compatible_assoc.mp ⟨hab, h⟩
    exact ⟨b.join c, ⟨hbc, rfl⟩, ha, join_assoc a c hb.wellFormed⟩
  · rintro ⟨bc, ⟨hbc, rfl⟩, h, rfl⟩
    obtain ⟨hab, hc⟩ := compatible_assoc.mpr ⟨hbc, h⟩
    exact ⟨a.join b, ⟨hab, rfl⟩, hc, (join_assoc a c hb.wellFormed).symm⟩

end ClassModel

/-- A final class, a regular one with a parent, and one with values and further exceptions. -/
theorem merge_assoc_of_repeatingDecl :
    let a := repeatingDecl.freeze (some ⟨"a/C.html"⟩)
    let b := { repeatingDecl with kind := .regular, parent := some (.ofName "p.B") }.freeze
      (some ⟨"b/C.html"⟩)
    let c := ({ repeatingDecl with
      constructors := [⟨.isPublic, [⟨.ofName "int", "k"⟩], [.ofName "p.G"]⟩] }.freeze
        (some ⟨"c/C.html"⟩)).fill (.ofList [("LIMIT", "2")])
    b.Reachable ∧ ∃ m, m.parent = some (.ofName "p.B") ∧ m.kind = .regular ∧
      m.sources.length = 3 ∧ (∃ ab, a.merge b = .ok ab ∧ ab.merge c = .ok m) ∧
      ∃ bc, b.merge c = .ok bc ∧ a.merge bc = .ok m := by
  intro a b c
  have hab : a.Compatible b := ⟨rfl, rfl, fun s t hs _ => by cases hs⟩
  have hc : (a.join b).Compatible c := ⟨rfl, rfl, fun s t _ ht => by cases ht⟩
  have hb : b.Reachable := .freeze _ _
  have hl : ∃ ab, a.merge b = .ok ab ∧ ab.merge c = .ok ((a.join b).join c) :=
    ⟨_, ClassModel.merge_eq_ok_iff.mpr ⟨hab, rfl⟩, ClassModel.merge_eq_ok_iff.mpr ⟨hc, rfl⟩⟩
  exact ⟨hb, (a.join b).join c, by decide +kernel, by decide +kernel, by decide +kernel, hl,
    (ClassModel.merge_assoc hb _).mp hl⟩

/-! ## Pages that are put together -/

namespace ClassDecl

/-- The page that declares the members of one page and then those of another. -/
def append (d e : ClassDecl) : ClassDecl :=
  { d with
    implements := d.implements ++ e.implements
    fields := d.fields ++ e.fields
    constructors := d.constructors ++ e.constructors
    methods := d.methods ++ e.methods }

variable {d e : ClassDecl}

theorem plainFields_append : (d.append e).plainFields = d.plainFields ++ e.plainFields :=
  List.filterMap_append

theorem constants_append : (d.append e).constants = d.constants ++ e.constants :=
  List.filterMap_append

theorem parent_freeze_congr (source : Option Path) (hkind : d.kind = e.kind)
    (hparent : d.parent = e.parent) : (d.freeze source).parent = (e.freeze source).parent := by
  simp only [freeze, properParent, hkind, hparent]

/-- The parent of an interface is among the interfaces of both pages, and counts once. -/
theorem implements_freeze_append (source : Option Path) (hkind : d.kind = e.kind)
    (hparent : d.parent = e.parent) :
    ((d.append e).freeze source).implements =
      (d.freeze source).implements ∪ (e.freeze source).implements := by
  have hproper : e.properParent = d.properParent := by rw [properParent, properParent, hparent]
  have happend : (d.append e).properParent = d.properParent := rfl
  ext t
  simp only [freeze, ← hkind, hproper, happend]
  by_cases hi : d.kind.isInterface = true
  · simp only [append, hi, if_true, OrderedSet.mem_union, OrderedSet.mem_insertMany,
      OrderedSet.mem_ofList, List.mem_append]
    rw [or_or_distrib_right]
  · simp [append, hi]

theorem compatible_freeze (source : Option Path) (hpackage : d.package = e.package)
    (hname : d.name = e.name) (hkind : d.kind = e.kind) (hparent : d.parent = e.parent) :
    (d.freeze source).Compatible (e.freeze source) where
  fullName := by
    show qualifiedName d.package d.name = qualifiedName e.package e.name
    rw [hpackage, hname]
  kind := congrArg ClassKind.family hkind
  parent s t hs ht := by
    rw [parent_freeze_congr source hkind hparent, ht] at hs
    exact (Option.some.inj hs).symm

/-- The model of both pages is the join of their models, list by list. -/
theorem freeze_append_eq_join (source : Option Path) (hkind : d.kind = e.kind)
    (hparent : d.parent = e.parent) :
    (d.append e).freeze source = (d.freeze source).join (e.freeze source) := by
  rw [ClassModel.join, ClassModel.mk.injEq]
  refine ⟨rfl, rfl, ?_, ?_, implements_freeze_append source hkind hparent, ?_, ?_, ?_, ?_, ?_⟩
  · show d.kind = d.kind.join e.kind
    rw [hkind, ClassKind.join, if_pos rfl]
  · rw [← parent_freeze_congr source hkind hparent, Option.or_self]
    rfl
  · show constructorAbsorption.addAll [] ((d.constructors ++ e.constructors).map _) = _
    rw [List.map_append, Absorption.addAll_append]
    exact (Absorption.addAll_addAll_nil constructorAbsorption_lawful _ _).symm
  · show methodAbsorption.addAll [] ((d.methods ++ e.methods).map _) = _
    rw [List.map_append, Absorption.addAll_append]
    exact (Absorption.addAll_addAll_nil methodAbsorption_lawful _ _).symm
  · show (Absorption.distinct Field).addAll [] (d.append e).plainFields = _
    rw [plainFields_append]
    exact (Absorption.addAll_nil_of_parts distinct_lawful _ _).symm
  · show constantAbsorption.addAll [] (d.append e).constants = _
    rw [constants_append]
    exact (Absorption.addAll_nil_of_parts constantAbsorption_lawful _ _).symm
  · cases source with
    | none => rfl
    | some p => exact (Absorption.add_cons_of_eq sourceAbsorption_lawful [] rfl).symm

/-- A page that repeats members is folded the way two pages are: freezing the members of both pages
gives, in every list order, the merge of what the two pages freeze to. -/
theorem freeze_append (source : Option Path) (hpackage : d.package = e.package)
    (hname : d.name = e.name) (hkind : d.kind = e.kind) (hparent : d.parent = e.parent) :
    (d.freeze source).merge (e.freeze source) = .ok ((d.append e).freeze source) :=
  ClassModel.merge_eq_ok_iff.mpr ⟨compatible_freeze source hpackage hname hkind hparent,
    freeze_append_eq_join source hkind hparent⟩

end ClassDecl

/-- An interface whose parent is also listed among its interfaces, on two pages that each repeat
members of the other one. -/
theorem freeze_append_of_repeatingDecl :
    let source : Option Path := some ⟨"a/C.html"⟩
    let d := { repeatingDecl with kind := .interface, parent := some (.ofName "p.B") }
    let e := { d with
      implements := [.ofName "p.B", .ofName "p.A"]
      fields := [⟨.isPublic, .staticFinal, "LIMIT", .ofName "int", some "2"⟩]
      methods := [⟨.isPublic, .none, "size", .ofName "int", [], [.ofName "p.G"]⟩] }
    (d.package = e.package ∧ d.name = e.name ∧ d.kind = e.kind ∧ d.parent = e.parent) ∧
      ∃ m, (d.freeze source).merge (e.freeze source) = .ok m ∧ (d.append e).freeze source = m ∧
        m.implements.toList = [.ofName "p.A", .ofName "p.B"] ∧
        m.methods.map (·.throws.toList.length) = [3] ∧
        m.constants.map (·.value) = [some "1"] ∧ m.sources.length = 1 := by
  intro source d e
  have hm := ClassDecl.freeze_append (d := d) (e := e) source rfl rfl rfl rfl
  exact ⟨⟨rfl, rfl, rfl, rfl⟩, _, hm, rfl, by decide +kernel, by decide +kernel, by decide +kernel,
    by decide +kernel⟩

end ApiDoc
