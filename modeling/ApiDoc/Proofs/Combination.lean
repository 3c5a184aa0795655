import ApiDoc.Proofs.Fold
import ApiDoc.Proofs.WellFormed

/-!
# What a folded model consists of

The model that folding gives is the combination of the accepted models (`foldModels_combines`): each
kind of member occurs once under its key, in the order in which the keys first occur, and carries what
all accepted models say of it.  `Combines` states this without reference to merging.
-/

namespace ApiDoc

/-! ## The combination of several models -/

/-- The entries of constructors or methods that make up the items: one for each key, with the arguments
of the first item and the exceptions of all. -/
structure Gathers {α κ : Type} [DecidableEq κ] (key : α → κ) (arguments : α → List Argument)
    (throws : α → OrderedSet TypeRef) (items entries : List α) : Prop where
  keys : entries.map key = (items.map key).eraseDups
  arguments_first : ∀ e ∈ entries,
    (items.find? fun x => decide (key x = key e)).map arguments = some (arguments e)
  mem_throws : ∀ e ∈ entries, ∀ t, t ∈ throws e ↔ ∃ x ∈ items, key x = key e ∧ t ∈ throws x

/-- A model that says what the models of a list say together. -/
structure Combines (models : List ClassModel) (m : ClassModel) : Prop where
  fullName : ∀ a, models.head? = some a → m.package = a.package ∧ m.name = a.name
  kind_mixed : (∃ a ∈ models, a.kind = .final) → (∃ a ∈ models, a.kind = .regular) →
    m.kind = .regular
  kind_common : ¬((∃ a ∈ models, a.kind = .final) ∧ ∃ a ∈ models, a.kind = .regular) →
    ∀ a ∈ models, a.kind = m.kind
  parent : ∀ p, m.parent = some p ↔ ∃ a ∈ models, a.parent = some p
  implements : ∀ t, t ∈ m.implements ↔ ∃ a ∈ models, t ∈ a.implements
  constructors : Gathers Constructor.key (·.arguments) (·.throws) (models.flatMap (·.constructors))
    m.constructors
  methods : Gathers Method.key (·.arguments) (·.throws) (models.flatMap (·.methods)) m.methods
  fields : m.fields = (models.flatMap (·.fields)).eraseDups
  constants : m.constants.map (·.field) = ((models.flatMap (·.constants)).map (·.field)).eraseDups
  /-- The first value that is known. -/
  constants_value : ∀ c ∈ m.constants, c.value =
    ((models.flatMap (·.constants)).filter fun d => decide (d.field = c.field)).findSome? (·.value)
  constants_type : ∀ c ∈ m.constants,
    constantType? c.field.flags c.field.type = some c.constantType
  sources : m.sources.map Path.components =
    ((models.flatMap (·.sources)).map Path.components).eraseDups
  /-- A path is kept as it is written first. -/
  sources_first : ∀ p ∈ m.sources,
    (models.flatMap (·.sources)).find? (fun q => decide (q.components = p.components)) = some p

/-! ## Entries -/

theorem find?_of_filter {α : Type} {p : α → Bool} {items rest : List α} {first : α}
    (h : items.filter p = first :: rest) : items.find? p = some first := by
  rw [← List.head?_filter, h]
  rfl

/-- What one join keeps, a series of joins keeps. -/
theorem foldl_join_of_keeps {α β : Type} {join : α → α → α} {f : α → β}
    (hf : ∀ x y, f (join x y) = f x) (l : List α) (x : α) : f (l.foldl join x) = f x := by
  induction l generalizing x with
  | nil => rfl
  | cons y r ih => rw [List.foldl_cons, ih, hf]

/-- Where a join unites exceptions, a series of joins unites those of all items. -/
theorem mem_foldl_join {α : Type} {join : α → α → α} {throws : α → OrderedSet TypeRef}
    (ht : ∀ x y, throws (join x y) = throws x ∪ throws y) (l : List α) (x : α) (t : TypeRef) :
    t ∈ throws (l.foldl join x) ↔ ∃ y ∈ x :: l, t ∈ throws y := by
  induction l generalizing x with
  | nil => simp
  | cons y r ih =>
    rw [List.foldl_cons, ih]
    simp [ht, or_assoc]

/-- A series of joins keeps the first value. -/
theorem value_foldl_join (l : List Constant) (c : Constant) :
    (l.foldl constantAbsorption.join c).value = (c :: l).findSome? (·.value) := by
  induction l generalizing c with
  | nil => cases hc : c.value <;> simp [hc]
  | cons d r ih =>
    rw [List.foldl_cons, ih]
    cases hc : c.value with
    | none => simp [constantAbsorption, List.findSome?_cons, hc]
    | some v => simp [constantAbsorption, hc]

section
variable {α κ : Type} {b : Absorption α} {key : α → κ} (hb : b.Lawful key)
include hb

/-- Absorption gathers members if joining keeps the arguments and unites the exceptions. -/
theorem gathers_addAll_nil [DecidableEq κ] {arguments : α → List Argument} {throws : α → OrderedSet TypeRef}
    (ha : ∀ x y, arguments (b.join x y) = arguments x)
    (ht : ∀ x y, throws (b.join x y) = throws x ∪ throws y) (items : List α) :
    Gathers key arguments throws items (b.addAll [] items) where
  keys := Absorption.map_key_addAll_nil hb items
  arguments_first e he := by
    obtain ⟨first, rest, hf, hj⟩ := Absorption.filter_of_mem_addAll_nil hb he
    have hargs : arguments e = arguments first := by
      conv => lhs; rw [hj]
      exact foldl_join_of_keeps ha rest first
    rw [find?_of_filter hf, Option.map_some, hargs]
  mem_throws e he t := by
    obtain ⟨first, rest, hf, hj⟩ := Absorption.filter_of_mem_addAll_nil hb he
    have hmem : t ∈ throws e ↔ ∃ y ∈ first :: rest, t ∈ throws y := by
      conv => lhs; rw [hj]
      exact mem_foldl_join ht rest first t
    rw [hmem, ← hf]
    simp [and_assoc]

/-- What is seen of a model grows by absorption, if it does so in every join. -/
theorem Joins.view_eq (view : ClassModel → List α)
    (hv : ∀ a c, b.addAll [] (view a) = view a → view (a.join c) = b.addAll (view a) (view c))
    {l : List ClassModel} {m : ClassModel} (h : Joins l m)
    (hw : ∀ a ∈ l, b.addAll [] (view a) = view a) : view m = b.addAll [] (l.flatMap view) := by
  induction h with
  | one m => simpa using (hw m List.mem_cons_self).symm
  | @snoc l acc m _ _ ih =>
    have ih := ih fun a ha => hw a (List.mem_append_left _ ha)
    have hacc : b.addAll [] (view acc) = view acc := by
      rw [ih]
      exact Absorption.addAll_addAll_nil hb [] _
    rw [hv acc m hacc, ih, ← Absorption.addAll_append]
    simp

end

/-- A constant has the first value among the items with its declaration. -/
theorem value_of_mem_addAll_nil {items : List Constant} {c : Constant}
    (hc : c ∈ constantAbsorption.addAll [] items) :
    c.value = (items.filter fun d => decide (d.field = c.field)).findSome? (·.value) := by
  obtain ⟨first, rest, hf, hj⟩ := Absorption.filter_of_mem_addAll_nil constantAbsorption_lawful hc
  rw [hf, ← value_foldl_join rest first, ← hj]

/-- A path is the first of those with its components. -/
theorem find?_of_mem_addAll_nil {items : List Path} {p : Path}
    (hp : p ∈ sourceAbsorption.addAll [] items) :
    items.find? (fun q => decide (q.components = p.components)) = some p := by
  obtain ⟨first, rest, hf, hj⟩ := Absorption.filter_of_mem_addAll_nil sourceAbsorption_lawful hp
  have hfirst : rest.foldl sourceAbsorption.join first = first :=
    foldl_join_of_keeps (f := id) (fun _ _ => rfl) rest first
  rw [find?_of_filter hf, hj, hfirst]

/-! ## Class data -/

namespace Joins

variable {l : List ClassModel} {m : ClassModel}

theorem ne_nil (h : Joins l m) : l ≠ [] := by
  cases h <;> simp

theorem fullName (h : Joins l m) (a : ClassModel) (ha : l.head? = some a) :
    m.package = a.package ∧ m.name = a.name := by
  induction h with
  | one m =>
    cases ha
    exact ⟨rfl, rfl⟩
  | @snoc l acc m h _ ih =>
    apply ih
    cases l with
    | nil => exact absurd rfl h.ne_nil
    | cons b r => exact ha

/-- Either all kinds are the same, or final and regular classes have made a regular one. -/
theorem kind (h : Joins l m) :
    (∀ a ∈ l, a.kind = m.kind) ∨
      m.kind = .regular ∧ (∃ a ∈ l, a.kind = .final) ∧ ∃ a ∈ l, a.kind = .regular := by
  induction h with
  | one m => simp
  | @snoc l acc m h hc ih =>
    have hm : m ∈ l ++ [m] := List.mem_append_right l List.mem_cons_self
    by_cases e : acc.kind = m.kind
    · have hj : (acc.join m).kind = acc.kind := if_pos e
      rw [hj]
      rcases ih with ih | ⟨hr, ⟨a, ha, hf⟩, ⟨b, hb, hr'⟩⟩
      · left
        intro a ha
        rcases List.mem_append.mp ha with ha | ha
        · exact ih a ha
        · rw [List.mem_singleton.mp ha, e]
      · exact .inr ⟨hr, ⟨a, List.mem_append_left _ ha, hf⟩, ⟨b, List.mem_append_left _ hb, hr'⟩⟩
    · right
      have hj : (acc.join m).kind = .regular := if_neg e
      refine ⟨hj, ?_⟩
      rcases ih with ih | ⟨hr, ⟨a, ha, hf⟩, ⟨b, hb, hr'⟩⟩
      · obtain ⟨a, ha⟩ := List.exists_mem_of_ne_nil l h.ne_nil
        have hka := ih a ha
        have ha := List.mem_append_left [m] ha
        rcases ClassKind.final_regular_of_ne hc.kind e with ⟨hacc, hmk⟩ | ⟨hacc, hmk⟩
        · exact ⟨⟨a, ha, hka.trans hacc⟩, ⟨m, hm, hmk⟩⟩
        · exact ⟨⟨m, hm, hmk⟩, ⟨a, ha, hka.trans hacc⟩⟩
      · exact ⟨⟨a, List.mem_append_left _ ha, hf⟩, ⟨b, List.mem_append_left _ hb, hr'⟩⟩

theorem parent (h : Joins l m) (p : TypeRef) :
    m.parent = some p ↔ ∃ a ∈ l, a.parent = some p := by
  induction h with
  | one m => simp
  | snoc _ hc ih =>
    rw [ClassModel.parent_join_eq_some_iff hc, ih]
    simp [or_and_right, exists_or]

theorem implements (h : Joins l m) (t : TypeRef) :
    t ∈ m.implements ↔ ∃ a ∈ l, t ∈ a.implements := by
  induction h with
  | one m => simp
  | @snoc l acc m _ _ ih =>
    show t ∈ acc.implements ∪ m.implements ↔ _
    rw [OrderedSet.mem_union, ih]
    simp [or_and_right, exists_or]

/-! ## Members -/

variable (h : Joins l m) (hw : ∀ a ∈ l, a.WellFormed)
include h hw

theorem wellFormed : m.WellFormed := by
  induction h with
  | one m => exact hw m List.mem_cons_self
  | @snoc l acc m _ _ ih =>
    have hm : m.WellFormed := hw m (List.mem_append_right l List.mem_cons_self)
    exact ClassModel.wellFormed_join (ih fun a ha => hw a (List.mem_append_left _ ha)) hm

theorem constructors :
    m.constructors = constructorAbsorption.addAll [] (l.flatMap (·.constructors)) :=
  view_eq constructorAbsorption_lawful (·.constructors) (fun _ _ _ => rfl) h fun a ha =>
    Absorption.addAll_nil_eq_self constructorAbsorption_lawful (hw a ha).constructors

theorem methods : m.methods = methodAbsorption.addAll [] (l.flatMap (·.methods)) :=
  view_eq methodAbsorption_lawful (·.methods) (fun _ _ _ => rfl) h fun a ha =>
    Absorption.addAll_nil_eq_self methodAbsorption_lawful (hw a ha).methods

theorem fields : m.fields = (l.flatMap (·.fields)).eraseDups := by
  have hv := view_eq (distinct_lawful (α := Field)) (·.fields)
    (fun _ _ e => Absorption.addAll_nil_append_of_eq e) h fun a ha =>
      Absorption.addAll_nil_eq_self distinct_lawful (by simpa using (hw a ha).fields)
  have hk := Absorption.map_key_addAll_nil (distinct_lawful (α := Field)) (l.flatMap (·.fields))
  rw [List.map_id, List.map_id] at hk
  exact hv.trans hk

theorem constants : m.constants = constantAbsorption.addAll [] (l.flatMap (·.constants)) :=
  view_eq constantAbsorption_lawful (·.constants) (fun _ _ e => Absorption.addAll_nil_append_of_eq e) h
    fun a ha => Absorption.addAll_nil_eq_self constantAbsorption_lawful (hw a ha).constants

theorem sources : m.sources = sourceAbsorption.addAll [] (l.flatMap (·.sources)) :=
  view_eq sourceAbsorption_lawful (·.sources) (fun _ _ e => Absorption.addAll_nil_append_of_eq e) h
    fun a ha => Absorption.addAll_nil_eq_self sourceAbsorption_lawful (hw a ha).sources

/-- A join combines the models it is made of. -/
theorem combines : Combines l m where
  fullName := h.fullName
  kind_mixed := by
    rintro ⟨a, ha, hf⟩ ⟨b, hb, hr⟩
    rcases h.kind with hk | hk
    · have := (hk a ha).trans (hk b hb).symm
      rw [hf, hr] at this
      cases this
    · exact hk.1
  kind_common := by
    intro hn
    rcases h.kind with hk | hk
    · exact hk
    · exact absurd hk.2 hn
  parent := h.parent
  implements := h.implements
  constructors := by
    rw [h.constructors hw]
    exact gathers_addAll_nil constructorAbsorption_lawful (fun _ _ => rfl) (fun _ _ => rfl) _
  methods := by
    rw [h.methods hw]
    exact gathers_addAll_nil methodAbsorption_lawful (fun _ _ => rfl) (fun _ _ => rfl) _
  fields := h.fields hw
  constants := by
    rw [h.constants hw]
    exact Absorption.map_key_addAll_nil constantAbsorption_lawful _
  constants_value := by
    intro c hc
    rw [h.constants hw] at hc
    exact value_of_mem_addAll_nil hc
  constants_type := (h.wellFormed hw).constants_typed
  sources := by
    rw [h.sources hw]
    exact Absorption.map_key_addAll_nil sourceAbsorption_lawful _
  sources_first := by
    intro p hp
    rw [h.sources hw] at hp
    exact find?_of_mem_addAll_nil hp

end Joins

/-- Folding gives the combination of the models that it does not report; the first is one of them. -/
theorem foldModels_combines (first : ClassModel) (rest : List ClassModel)
    (hr : ∀ m ∈ first :: rest, m.Reachable) :
    ∃ m accepted, acceptedModels (first :: rest) = first :: accepted ∧
      (foldModels (first :: rest)).model = some m ∧ Combines (first :: accepted) m := by
  obtain ⟨m, accepted, ha, hm, hj⟩ := foldModels_joins first rest
  refine ⟨m, accepted, ha, hm, hj.combines fun a h => ?_⟩
  have hs : (acceptedModels (first :: rest)).Sublist (first :: rest) :=
    FoldOutcome.accepted_sublist FoldOutcome.start (first :: rest)
  exact (hr a (hs.subset (ha ▸ h))).wellFormed

/-- Between two pages that go together stands one that declares an interface. -/
theorem foldModels_combines_of_repeatingDecl :
    let a := repeatingDecl.freeze (some ⟨"a/C.html"⟩)
    let i := { repeatingDecl with kind := .interface }.freeze (some ⟨"b/C.html"⟩)
    let c := ({ repeatingDecl with kind := .regular, parent := some (.ofName "p.B") }.freeze
      (some ⟨"c/C.html"⟩)).fill (.ofList [("LIMIT", "2")])
    (∀ m ∈ [a, i, c], m.Reachable) ∧ acceptedModels [a, i, c] = [a, c] ∧
      ∃ m, (foldModels [a, i, c]).model = some m ∧ Combines [a, c] m := by
  intro a i c
  have hr : ∀ m ∈ [a, i, c], m.Reachable := by
    intro m hm
    rcases List.mem_cons.mp hm with rfl | hm
    · exact .freeze _ _
    rcases List.mem_cons.mp hm with rfl | hm
    · exact .freeze _ _
    · rw [List.mem_singleton.mp hm]
      exact .fill _ (.freeze _ _)
  have ha : acceptedModels [a, i, c] = [a, c] := by decide +kernel
  obtain ⟨m, accepted, h, hm, hc⟩ := foldModels_combines a [i, c] hr
  rw [← h, ha] at hc
  exact ⟨hr, ha, m, hm, hc⟩

end ApiDoc
