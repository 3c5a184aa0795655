import ApiDoc.Output
import ApiDoc.Proofs.JsonTexts
import ApiDoc.Proofs.TypeTexts
import ApiDoc.Proofs.WellFormed
import Mathlib.Data.Set.Function

/-!
# Registries that are written

Two registries of which one JSON text is written are equal, as far as their types are read from
texts:

    r.printJson pretty = s.printJson pretty ↔ r = s                 (Registry.printJson_inj)

A text gives its value, since texts of JSON values can be told apart; the value gives the registry,
layer by layer.  Names and values may be any strings, a type is told by its printed form
(`TypeRef.IsRead.print_inj`), the flags by their keywords and a set by the list of its members.
-/

namespace ApiDoc

/-! ## Types of a model -/

namespace Argument

/-- The types in an argument. -/
def types (a : Argument) : List TypeRef := [a.type]

end Argument

namespace Constructor

/-- The types in a constructor. -/
def types (c : Constructor) : List TypeRef := c.arguments.flatMap Argument.types ++ c.throws.toList

end Constructor

namespace Method

/-- The types in a method. -/
def types (m : Method) : List TypeRef :=
  m.returnType :: (m.arguments.flatMap Argument.types ++ m.throws.toList)

end Method

namespace Field

/-- The types in a field. -/
def types (f : Field) : List TypeRef := [f.type]

end Field

namespace Constant

/-- The types in a constant. -/
def types (c : Constant) : List TypeRef := c.field.types

end Constant

namespace ClassModel

/-- Every type in a model: of its header and of its members. -/
def types (m : ClassModel) : List TypeRef :=
  m.parent.toList ++ m.implements.toList ++ m.constructors.flatMap Constructor.types ++
    m.methods.flatMap Method.types ++ m.fields.flatMap Field.types ++
    m.constants.flatMap Constant.types

end ClassModel

/-- The items whose types are all read from texts. -/
def readTypes {α : Type} (types : α → List TypeRef) : Set α := fun a => ∀ t ∈ types a, t.IsRead

/-! ## Lists -/

theorem map_injOn {α β : Type} {f : α → β} {s : Set α} (h : s.InjOn f) :
    Set.InjOn (List.map f) fun l => ∀ a ∈ l, a ∈ s := by
  intro l hl
  induction l with
  | nil =>
    intro m _ he
    exact (List.map_eq_nil_iff.mp he.symm).symm
  | cons a l ih =>
    rintro (_ | ⟨b, m⟩) hm he
    · cases he
    · obtain ⟨ha, hl⟩ := List.forall_mem_cons.mp hl
      obtain ⟨hb, hm⟩ := List.forall_mem_cons.mp hm
      obtain ⟨hab, hlm⟩ := List.cons.inj he
      rw [h ha hb hab, ih hl hm hlm]

theorem mem_readTypes_of_flatMap {α : Type} {types : α → List TypeRef} {l : List α}
    (h : ∀ t ∈ l.flatMap types, t.IsRead) : ∀ a ∈ l, a ∈ readTypes types :=
  fun a ha t ht => h t (List.mem_flatMap.mpr ⟨a, ha, ht⟩)

/-- A set is told by the list of its members. -/
theorem toList_injective {α : Type} [Ord α] :
    Function.Injective (OrderedSet.toList : OrderedSet α → List α) := by
  rintro ⟨l, _⟩ ⟨m, _⟩ rfl
  rfl

/-! ## Names -/

theorem Access.name_injective : Function.Injective Access.name := by
  intro a b
  cases a <;> cases b <;> decide

theorem ClassKind.name_injective : Function.Injective ClassKind.name := by
  intro a b
  cases a <;> cases b <;> decide

theorem ConstantType.name_injective : Function.Injective ConstantType.name := by
  intro a b
  cases a <;> cases b <;> decide

namespace Flags

/-- The flags with these keywords. -/
def ofKeywords (l : List String) : Flags :=
  ⟨l.contains "abstract", l.contains "static", l.contains "final"⟩

theorem ofKeywords_keywords (f : Flags) : ofKeywords f.keywords = f := by
  obtain ⟨a, s, e⟩ := f
  cases a <;> cases s <;> cases e <;> decide

theorem toJson_injective : Function.Injective toJson := by
  intro f g h
  simp only [toJson, Json.ofStrings, Json.array.injEq] at h
  have hkeywords := List.map_injective_iff.mpr (fun _ _ => Json.string.inj) h
  rw [← ofKeywords_keywords f, hkeywords, ofKeywords_keywords]

end Flags

theorem Json.ofString?_injective : Function.Injective Json.ofString? := by
  rintro (_ | s) (_ | t) h
  · rfl
  · cases h
  · cases h
  · rw [Json.string.inj h]

theorem Json.ofStrings_injective : Function.Injective Json.ofStrings := by
  intro l m h
  exact List.map_injective_iff.mpr (fun _ _ => Json.string.inj) (Json.array.inj h)

/-! ## Types and members -/

namespace TypeRef

theorem toJson_injOn : Set.InjOn toJson IsRead :=
  fun _ ht _ hu h => (IsRead.print_inj ht hu).mp (Json.string.inj h)

theorem listToJson_injOn : Set.InjOn listToJson fun l => ∀ t ∈ l, t.IsRead :=
  fun _ hl _ hm h => map_injOn toJson_injOn hl hm (Json.array.inj h)

theorem print?_injOn :
    Set.InjOn (fun t : Option TypeRef => Json.ofString? (t.map print)) fun t => ∀ u ∈ t.toList, u.IsRead := by
  rintro (_ | t) ht (_ | u) hu h
  · rfl
  · cases Json.ofString?_injective h
  · cases Json.ofString?_injective h
  · have hprint := Option.some.inj (Json.ofString?_injective h)
    have htu := (IsRead.print_inj (ht t (by simp)) (hu u (by simp))).mp hprint
    rw [htu]

end TypeRef

theorem Argument.toJson_injOn : Set.InjOn toJson (readTypes types) := by
  rintro ⟨t, n⟩ ha ⟨u, o⟩ hb h
  simp only [toJson, Json.object.injEq, List.cons.injEq, Prod.mk.injEq, true_and, and_true,
    Json.string.injEq] at h
  obtain ⟨htype, rfl⟩ := h
  obtain rfl : t = u := TypeRef.toJson_injOn (ha t (List.mem_singleton_self t))
    (hb u (List.mem_singleton_self u)) htype
  rfl

theorem Constructor.toJson_injOn : Set.InjOn toJson (readTypes types) := by
  rintro ⟨a, args, throws⟩ hc ⟨b, brgs, throws'⟩ hd h
  obtain ⟨hargs, hthrows⟩ := List.forall_mem_append.mp hc
  obtain ⟨hbrgs, hthrows'⟩ := List.forall_mem_append.mp hd
  simp only [toJson, Json.object.injEq, List.cons.injEq, Prod.mk.injEq, true_and, and_true,
    Json.string.injEq, Json.array.injEq] at h
  obtain ⟨haccess, harguments, hlists⟩ := h
  obtain rfl : a = b := Access.name_injective haccess
  obtain rfl : args = brgs := map_injOn Argument.toJson_injOn (mem_readTypes_of_flatMap hargs)
    (mem_readTypes_of_flatMap hbrgs) harguments
  obtain rfl : throws = throws' :=
    toList_injective (TypeRef.listToJson_injOn hthrows hthrows' hlists)
  rfl

theorem Method.toJson_injOn : Set.InjOn toJson (readTypes types) := by
  rintro ⟨a, f, n, t, args, throws⟩ hc ⟨b, g, o, u, brgs, throws'⟩ hd h
  obtain ⟨ht, hc⟩ := List.forall_mem_cons.mp hc
  obtain ⟨hu, hd⟩ := List.forall_mem_cons.mp hd
  obtain ⟨hargs, hthrows⟩ := List.forall_mem_append.mp hc
  obtain ⟨hbrgs, hthrows'⟩ := List.forall_mem_append.mp hd
  simp only [toJson, Json.object.injEq, List.cons.injEq, Prod.mk.injEq, true_and, and_true,
    Json.string.injEq, Json.array.injEq] at h
  obtain ⟨haccess, hflags, rfl, htype, harguments, hlists⟩ := h
  obtain rfl : a = b := Access.name_injective haccess
  obtain rfl : f = g := Flags.toJson_injective hflags
  obtain rfl : t = u := TypeRef.toJson_injOn ht hu htype
  obtain rfl : args = brgs := map_injOn Argument.toJson_injOn (mem_readTypes_of_flatMap hargs)
    (mem_readTypes_of_flatMap hbrgs) harguments
  obtain rfl : throws = throws' :=
    toList_injective (TypeRef.listToJson_injOn hthrows hthrows' hlists)
  rfl

theorem Field.jsonEntries_injOn : Set.InjOn jsonEntries (readTypes types) := by
  rintro ⟨a, f, n, t⟩ hf ⟨b, g, o, u⟩ hg h
  simp only [jsonEntries, List.cons.injEq, Prod.mk.injEq, true_and, and_true,
    Json.string.injEq] at h
  obtain ⟨haccess, hflags, rfl, htype⟩ := h
  obtain rfl : a = b := Access.name_injective haccess
  obtain rfl : f = g := Flags.toJson_injective hflags
  obtain rfl : t = u := TypeRef.toJson_injOn (hf t (List.mem_singleton_self t))
    (hg u (List.mem_singleton_self u)) htype
  rfl

theorem Field.toJson_injOn : Set.InjOn toJson (readTypes types) :=
  fun _ hf _ hg h => jsonEntries_injOn hf hg (Json.object.inj h)

/-- The entries of the field stand in front of those that a constant has besides. -/
theorem Constant.toJson_injOn : Set.InjOn toJson (readTypes types) := by
  rintro ⟨f, t, v⟩ hc ⟨g, u, w⟩ hd h
  obtain ⟨hfield, hrest⟩ := List.append_inj (Json.object.inj h) rfl
  simp only [List.cons.injEq, Prod.mk.injEq, true_and, and_true, Json.string.injEq] at hrest
  obtain ⟨htype, hvalue⟩ := hrest
  obtain rfl : f = g := Field.jsonEntries_injOn hc hd hfield
  obtain rfl : t = u := ConstantType.name_injective htype
  obtain rfl : v = w := Json.ofString?_injective hvalue
  rfl

/-! ## Classes and registries -/

theorem ClassModel.toJson_injOn : Set.InjOn toJson (readTypes types) := by
  intro m hm n hn h
  have hparts : ∀ m ∈ readTypes types, (∀ t ∈ m.parent.toList, t.IsRead) ∧
      (∀ t ∈ m.implements.toList, t.IsRead) ∧ (∀ c ∈ m.constructors, c ∈ readTypes Constructor.types) ∧
      (∀ c ∈ m.methods, c ∈ readTypes Method.types) ∧ (∀ f ∈ m.fields, f ∈ readTypes Field.types) ∧
      ∀ c ∈ m.constants, c ∈ readTypes Constant.types := by
    intro m hm
    change ∀ t ∈ m.types, t.IsRead at hm
    simp only [types, List.forall_mem_append] at hm
    obtain ⟨⟨⟨⟨⟨hparent, himplements⟩, hconstructors⟩, hmethods⟩, hfields⟩, hconstants⟩ := hm
    exact ⟨hparent, himplements, mem_readTypes_of_flatMap hconstructors,
      mem_readTypes_of_flatMap hmethods, mem_readTypes_of_flatMap hfields,
      mem_readTypes_of_flatMap hconstants⟩
  obtain ⟨hp, hi, hc, hme, hf, hco⟩ := hparts m hm
  obtain ⟨hp', hi', hc', hme', hf', hco'⟩ := hparts n hn
  obtain ⟨package, name, kind, parent, implements, constructors, methods, fields, constants, sources⟩ := m
  obtain ⟨package', name', kind', parent', implements', constructors', methods', fields', constants',
    sources'⟩ := n
  simp only [toJson, Json.object.injEq, List.cons.injEq, Prod.mk.injEq, true_and, and_true,
    Json.string.injEq, Json.array.injEq] at h
  obtain ⟨rfl, rfl, hkind, hparent, himplements, hconstructors, hmethods, hfields, hconstants,
    hsources⟩ := h
  have htext : Function.Injective Path.text := by
    rintro ⟨s⟩ ⟨t⟩ rfl
    rfl
  obtain rfl : kind = kind' := ClassKind.name_injective hkind
  obtain rfl : parent = parent' := TypeRef.print?_injOn hp hp' hparent
  obtain rfl : implements = implements' :=
    toList_injective (TypeRef.listToJson_injOn hi hi' himplements)
  obtain rfl : constructors = constructors' := map_injOn Constructor.toJson_injOn hc hc' hconstructors
  obtain rfl : methods = methods' := map_injOn Method.toJson_injOn hme hme' hmethods
  obtain rfl : fields = fields' := map_injOn Field.toJson_injOn hf hf' hfields
  obtain rfl : constants = constants' := map_injOn Constant.toJson_injOn hco hco' hconstants
  obtain rfl : sources = sources' :=
    List.map_injective_iff.mpr htext (Json.ofStrings_injective hsources)
  rfl

namespace Registry

/-- The registries whose models have types that are read from texts. -/
def readTypes : Set Registry := fun r => ∀ m ∈ r.models, m ∈ ApiDoc.readTypes ClassModel.types

theorem toJson_injOn : Set.InjOn toJson readTypes := by
  rintro ⟨⟨l, hl⟩⟩ hr ⟨⟨m, hm⟩⟩ hs h
  have hentry : Set.InjOn (fun e : String × ClassModel => (e.1, e.2.toJson))
      fun e => e.2 ∈ ApiDoc.readTypes ClassModel.types := by
    rintro ⟨k, a⟩ ha ⟨k', b⟩ hb he
    obtain ⟨rfl, hab⟩ := Prod.mk.inj he
    obtain rfl : a = b := ClassModel.toJson_injOn ha hb hab
    rfl
  have hentries : l = m := map_injOn hentry
    (fun e he => hr e.2 (List.mem_map_of_mem he)) (fun e he => hs e.2 (List.mem_map_of_mem he))
    (Json.object.inj h)
  subst hentries
  rfl

/-- Nothing is lost when a registry is written: registries with one JSON text, laid out or compact,
are equal.  Names, literal values and sources may be any texts; the types have to be such that some
text is read as them. -/
theorem printJson_inj {r s : Registry} (hr : ∀ m ∈ r.models, ∀ t ∈ m.types, t.IsRead)
    (hs : ∀ m ∈ s.models, ∀ t ∈ m.types, t.IsRead) (pretty : Bool) :
    r.printJson pretty = s.printJson pretty ↔ r = s := by
  constructor
  · intro h
    have htext : (if pretty then r.toJson.pretty else r.toJson.compact) =
        if pretty then s.toJson.pretty else s.toJson.compact :=
      (String.append_left_inj _).mp h
    have hvalue : r.toJson = s.toJson := by
      cases pretty with
      | true => exact Json.pretty_inj.mp htext
      | false => exact Json.compact_inj.mp htext
    exact toJson_injOn hr hs hvalue
  · rintro rfl
    rfl

end Registry

/-- A page that repeats its members, read from two sources of one path, and once more with a value of
quotes, braces and line breaks. -/
theorem printJson_inj_of_repeatingDecl :
    let r := Registry.ofList [repeatingDecl.freeze (some ⟨"a/C.html"⟩)]
    let s := Registry.ofList [repeatingDecl.freeze (some ⟨"a//C.html"⟩)]
    let t := Registry.ofList
      [(repeatingDecl.freeze (some ⟨"a/C.html"⟩)).fill (.ofList [("LIMIT", "\"\x7d\n \\\"")])]
    (∀ q ∈ [r, s, t], ∀ m ∈ q.models, ∀ u ∈ m.types, u.IsRead) ∧
      r.printJson true ≠ s.printJson true ∧ r.printJson false ≠ s.printJson false ∧
      r.printJson true ≠ t.printJson true ∧ r.printJson false ≠ t.printJson false := by
  intro r s t
  have hr : ∀ m ∈ r.models, ∀ u ∈ m.types, u.IsRead := by decide +kernel
  have hs : ∀ m ∈ s.models, ∀ u ∈ m.types, u.IsRead := by decide +kernel
  have ht : ∀ m ∈ t.models, ∀ u ∈ m.types, u.IsRead := by decide +kernel
  have hrs : r ≠ s := by decide +kernel
  have hrt : r ≠ t := by decide +kernel
  refine ⟨List.forall_mem_cons.mpr ⟨hr, List.forall_mem_cons.mpr ⟨hs, List.forall_mem_singleton.mpr ht⟩⟩,
    ?_, ?_, ?_, ?_⟩
  · exact fun h => hrs ((Registry.printJson_inj hr hs true).mp h)
  · exact fun h => hrs ((Registry.printJson_inj hr hs false).mp h)
  · exact fun h => hrt ((Registry.printJson_inj hr ht true).mp h)
  · exact fun h => hrt ((Registry.printJson_inj hr ht false).mp h)

end ApiDoc
