import ApiDoc.Proofs.Repetition
import ApiDoc.Proofs.Runs

/-!
# Documentation roots that are added at the end

A class that gets further models only grows (`ClassModel.GrowsTo`): what is known of it stays, its
members stay in their places, and they are at most said to throw more or get a value they had not.
One absorption keeps this (`Absorption.prefixBy_addAll`), so does one join (`growsTo_join`), and so a
fold.  A run over more roots has the models of the old ones first in every class; whatever the new ones
hold, the old registry grows to the new one (`run_growsTo`).
-/

namespace ApiDoc

/-! ## Lists that grow -/

/-- The entries of the first list have their successors at the front of the second, in their order. -/
inductive PrefixBy {α : Type} (r : α → α → Prop) : List α → List α → Prop
  | nil (m : List α) : PrefixBy r [] m
  | cons {x y : α} {l m : List α} (h : r x y) (t : PrefixBy r l m) : PrefixBy r (x :: l) (y :: m)

namespace PrefixBy

variable {α : Type} {r : α → α → Prop} {l m n : List α}

theorem refl (hr : ∀ x, r x x) (l : List α) : PrefixBy r l l := by
  induction l with
  | nil => exact .nil []
  | cons x l ih => exact .cons (hr x) ih

theorem trans (ht : ∀ x y z, r x y → r y z → r x z) (h : PrefixBy r l m) (g : PrefixBy r m n) :
    PrefixBy r l n := by
  induction h generalizing n with
  | nil m => exact .nil n
  | cons hxy _ ih =>
    cases g with
    | cons hyz g => exact .cons (ht _ _ _ hxy hyz) (ih g)

/-- Entries that stay as they are make up a prefix. -/
theorem prefix_of_eq (h : PrefixBy (· = ·) l m) : l <+: m := by
  induction h with
  | nil m => exact List.nil_prefix
  | cons e _ ih => exact e ▸ List.cons_prefix_cons.mpr ⟨rfl, ih⟩

end PrefixBy

namespace Absorption

/-- An entry that absorbs an item is followed by what it becomes. -/
structure Extensive {α : Type} (b : Absorption α) (r : α → α → Prop) : Prop where
  refl : ∀ x, r x x
  trans : ∀ x y z, r x y → r y z → r x z
  join : ∀ x y, r x (b.join x y)

variable {α κ : Type} {b : Absorption α} {r : α → α → Prop}

theorem prefixBy_add (hb : b.Extensive r) (x : α) (l : List α) : PrefixBy r l (b.add x l) := by
  induction l with
  | nil => exact .nil [x]
  | cons y l ih =>
    unfold add
    split
    · exact .cons (hb.join y x) (.refl hb.refl l)
    · exact .cons (hb.refl y) ih

/-- Items that are absorbed leave the entries in their places. -/
theorem prefixBy_addAll (hb : b.Extensive r) (l items : List α) :
    PrefixBy r l (b.addAll l items) := by
  induction items generalizing l with
  | nil => exact .refl hb.refl l
  | cons x items ih => exact (prefixBy_add hb x l).trans hb.trans (ih (b.add x l))

/-- So does a union with entries that differ in their keys. -/
theorem prefixBy_addAll_nil_append {key : α → κ} (hb : b.Extensive r) (hl : b.Lawful key)
    {l : List α} (h : (l.map key).Nodup) (m : List α) : PrefixBy r l (b.addAll [] (l ++ m)) := by
  rw [addAll_nil_append_of_eq (addAll_nil_eq_self hl h)]
  exact prefixBy_addAll hb l m

end Absorption

/-! ## Members that grow -/

/-- The same constructor, with the same argument names, that throws no less. -/
structure Constructor.GrowsTo (c d : Constructor) : Prop where
  access : d.access = c.access
  arguments : d.arguments = c.arguments
  throws : ∀ t ∈ c.throws, t ∈ d.throws

/-- The same method, with the same argument names, that throws no less. -/
structure Method.GrowsTo (m n : Method) : Prop where
  access : n.access = m.access
  flags : n.flags = m.flags
  name : n.name = m.name
  returnType : n.returnType = m.returnType
  arguments : n.arguments = m.arguments
  throws : ∀ t ∈ m.throws, t ∈ n.throws

/-- The same constant, with its value if it had one. -/
structure Constant.GrowsTo (c d : Constant) : Prop where
  field : d.field = c.field
  constantType : d.constantType = c.constantType
  value : ∀ v, c.value = some v → d.value = some v

theorem constructorAbsorption_extensive : constructorAbsorption.Extensive Constructor.GrowsTo where
  refl _ := ⟨rfl, rfl, fun _ ht => ht⟩
  trans _ _ _ h g :=
    ⟨g.access.trans h.access, g.arguments.trans h.arguments, fun t ht => g.throws t (h.throws t ht)⟩
  join _ _ := ⟨rfl, rfl, fun _ ht => OrderedSet.mem_union.mpr (.inl ht)⟩

theorem methodAbsorption_extensive : methodAbsorption.Extensive Method.GrowsTo where
  refl _ := ⟨rfl, rfl, rfl, rfl, rfl, fun _ ht => ht⟩
  trans _ _ _ h g :=
    ⟨g.access.trans h.access, g.flags.trans h.flags, g.name.trans h.name,
      g.returnType.trans h.returnType, g.arguments.trans h.arguments,
      fun t ht => g.throws t (h.throws t ht)⟩
  join _ _ := ⟨rfl, rfl, rfl, rfl, rfl, fun _ ht => OrderedSet.mem_union.mpr (.inl ht)⟩

theorem constantAbsorption_extensive : constantAbsorption.Extensive Constant.GrowsTo where
  refl _ := ⟨rfl, rfl, fun _ hv => hv⟩
  trans _ _ _ h g :=
    ⟨g.field.trans h.field, g.constantType.trans h.constantType, fun v hv => g.value v (h.value v hv)⟩
  join _ _ := ⟨rfl, rfl, fun _ hv => Option.or_eq_some_iff.mpr (.inl hv)⟩

/-- An absorption that keeps its entries as they are. -/
theorem extensive_eq_of_join {α : Type} {b : Absorption α} (hb : ∀ x y, b.join x y = x) :
    b.Extensive (· = ·) where
  refl _ := rfl
  trans _ _ _ := Eq.trans
  join x y := (hb x y).symm

/-! ## Models that grow -/

namespace ClassModel

/-- What a model says is kept by a later one of the same class. -/
structure GrowsTo (a b : ClassModel) : Prop where
  package : b.package = a.package
  name : b.name = a.name
  kind : b.kind = a.kind ∨ a.kind = .final ∧ b.kind = .regular
  parent : b.parent = a.parent ∨ a.parent = none ∧ ∃ p, b.parent = some p
  implements : ∀ t ∈ a.implements, t ∈ b.implements
  constructors : PrefixBy Constructor.GrowsTo a.constructors b.constructors
  methods : PrefixBy Method.GrowsTo a.methods b.methods
  fields : a.fields <+: b.fields
  constants : PrefixBy Constant.GrowsTo a.constants b.constants
  sources : a.sources <+: b.sources

variable {a b c : ClassModel}

theorem GrowsTo.refl (a : ClassModel) : a.GrowsTo a where
  package := rfl
  name := rfl
  kind := .inl rfl
  parent := .inl rfl
  implements _ ht := ht
  constructors := .refl constructorAbsorption_extensive.refl _
  methods := .refl methodAbsorption_extensive.refl _
  fields := List.prefix_refl _
  constants := .refl constantAbsorption_extensive.refl _
  sources := List.prefix_refl _

theorem GrowsTo.trans (h : a.GrowsTo b) (g : b.GrowsTo c) : a.GrowsTo c where
  package := g.package.trans h.package
  name := g.name.trans h.name
  kind := by
    rcases h.kind with hab | ⟨ha, hb⟩
    · exact hab ▸ g.kind
    · -- a regular class is not final and stays what it is
      rcases g.kind with hbc | ⟨hb', -⟩
      · exact .inr ⟨ha, hbc.trans hb⟩
      · rw [hb] at hb'
        cases hb'
  parent := by
    rcases h.parent with hab | ⟨ha, p, hb⟩
    · exact hab ▸ g.parent
    · rcases g.parent with hbc | ⟨hb', -⟩
      · exact .inr ⟨ha, p, hbc.trans hb⟩
      · rw [hb] at hb'
        cases hb'
  implements t ht := g.implements t (h.implements t ht)
  constructors := h.constructors.trans constructorAbsorption_extensive.trans g.constructors
  methods := h.methods.trans methodAbsorption_extensive.trans g.methods
  fields := h.fields.trans g.fields
  constants := h.constants.trans constantAbsorption_extensive.trans g.constants
  sources := h.sources.trans g.sources

/-- A model grows to its join with any other that goes together with it. -/
theorem growsTo_join (ha : a.WellFormed) (h : a.Compatible b) : a.GrowsTo (a.join b) where
  package := rfl
  name := rfl
  kind := by
    by_cases e : a.kind = b.kind
    · exact .inl (if_pos e)
    · have hj : (a.join b).kind = .regular := if_neg e
      rcases ClassKind.final_regular_of_ne h.kind e with ⟨hf, -⟩ | ⟨hr, -⟩
      · exact .inr ⟨hf, hj⟩
      · exact .inl (hj.trans hr.symm)
  parent := by
    show a.parent.or b.parent = a.parent ∨ a.parent = none ∧ ∃ p, a.parent.or b.parent = some p
    cases a.parent with
    | some p => exact .inl rfl
    | none =>
      cases b.parent with
      | none => exact .inl rfl
      | some p => exact .inr ⟨rfl, p, rfl⟩
  implements _ ht := OrderedSet.mem_union.mpr (.inl ht)
  constructors := Absorption.prefixBy_addAll constructorAbsorption_extensive _ _
  methods := Absorption.prefixBy_addAll methodAbsorption_extensive _ _
  fields := by
    have hkeys : (a.fields.map id).Nodup := by rw [List.map_id]; exact ha.fields
    exact (Absorption.prefixBy_addAll_nil_append (extensive_eq_of_join fun _ _ => rfl)
      distinct_lawful hkeys _).prefix_of_eq
  constants := Absorption.prefixBy_addAll_nil_append constantAbsorption_extensive
    constantAbsorption_lawful ha.constants _
  sources := (Absorption.prefixBy_addAll_nil_append (extensive_eq_of_join fun _ _ => rfl)
    sourceAbsorption_lawful ha.sources _).prefix_of_eq

end ClassModel

/-! ## Folds that go on -/

namespace FoldOutcome

variable {o : FoldOutcome} {acc m : ClassModel}

/-- The model of a fold grows with one more model, or stays if that one is rejected. -/
theorem growsTo_add (ho : o.model = some acc) (hacc : acc.WellFormed) (hm : m.WellFormed) :
    ∃ next, (o.add m).model = some next ∧ next.WellFormed ∧ acc.GrowsTo next := by
  by_cases hc : acc.Compatible m
  · rw [add_of_compatible ho hc]
    exact ⟨acc.join m, rfl, ClassModel.wellFormed_join hacc hm, ClassModel.growsTo_join hacc hc⟩
  · obtain ⟨e, -, ha⟩ := add_of_not_compatible ho hc
    rw [ha]
    exact ⟨acc, ho, hacc, .refl acc⟩

theorem growsTo_foldl (ho : o.model = some acc) (hacc : acc.WellFormed) {models : List ClassModel}
    (hm : ∀ m ∈ models, m.WellFormed) :
    ∃ last, (models.foldl add o).model = some last ∧ acc.GrowsTo last := by
  induction models generalizing o acc with
  | nil => exact ⟨acc, ho, .refl acc⟩
  | cons m r ih =>
    obtain ⟨hm, hr⟩ := List.forall_mem_cons.mp hm
    obtain ⟨next, hnext, hw, hgrows⟩ := growsTo_add ho hacc hm
    obtain ⟨last, hlast, hrest⟩ := ih hnext hw hr
    exact ⟨last, hlast, hgrows.trans hrest⟩

end FoldOutcome

/-- Models that come later let the folded model grow. -/
theorem growsTo_foldModels_append {models more : List ClassModel} {acc : ClassModel}
    (hm : ∀ m ∈ models ++ more, m.WellFormed) (h : (foldModels models).model = some acc) :
    ∃ last, (foldModels (models ++ more)).model = some last ∧ acc.GrowsTo last := by
  have hne : models ≠ [] := by
    rintro rfl
    cases h
  obtain ⟨folded, hfolded, hj⟩ := joins_acceptedModels hne
  rw [h] at hfolded
  cases hfolded
  have hacc : acc.WellFormed := hj.wellFormed fun m ha =>
    hm m (List.mem_append_left _ (mem_of_mem_acceptedModels ha))
  rw [foldModels_append]
  exact FoldOutcome.growsTo_foldl h hacc fun m ha => hm m (List.mem_append_right _ ha)

/-! ## Runs over more roots -/

namespace Extraction

/-- Readings that are added at the end let every class of the registry grow. -/
theorem growsTo_registry {x y : Extraction} (h : x.roots <+: y.roots) {name : String}
    {m : ClassModel} (hm : x.registry.get? name = some m) :
    ∃ n, y.registry.get? name = some n ∧ m.GrowsTo n := by
  obtain ⟨more, hroots⟩ := h
  have hmodels : y.models = x.models ++ more.flatMap RootReading.models := by
    unfold models
    rw [← hroots, List.flatMap_append]
  have hfold : y.foldClass name = foldModels (x.models.filter (·.fullName == name) ++
      (more.flatMap RootReading.models).filter (·.fullName == name)) := by
    unfold foldClass
    rw [hmodels, List.filter_append]
  rw [get?_registry] at hm ⊢
  rw [hfold]
  refine growsTo_foldModels_append (fun a ha => ?_) hm
  rw [← List.filter_append, ← hmodels] at ha
  exact (reachable_of_mem_models (List.mem_filter.mp ha).1).wellFormed

variable {fs : FileSystem} {c : Config} {x y : Extraction}

/-- The documents of the first roots do not depend on the roots behind them. -/
theorem collect_append {more : List Path} {documents all : List DocumentSet}
    (h : collect fs c = .ok documents) (hall : collect fs { c with roots := c.roots ++ more } = .ok all) :
    documents <+: all := by
  unfold collect at h hall
  rw [List.mapM_append, h] at hall
  obtain ⟨first, hfirst, hall⟩ := Except.bind_eq_ok_iff.mp hall
  obtain ⟨rest, -, hall⟩ := Except.bind_eq_ok_iff.mp hall
  cases hfirst
  cases hall
  exact List.prefix_append _ _

/-- If a run over some roots and a run over more roots behind them both give a registry, every class of
the first is in the second and has only grown there. -/
theorem run_growsTo {more : List Path} (hx : run fs c = .ok x)
    (hy : run fs { c with roots := c.roots ++ more } = .ok y) :
    ∀ name m, x.registry.get? name = some m →
      ∃ n, y.registry.get? name = some n ∧ m.GrowsTo n := by
  obtain ⟨documents, hd, rfl, -⟩ := run_eq_ok_iff.mp hx
  obtain ⟨all, ha, rfl, -⟩ := run_eq_ok_iff.mp hy
  intro name m hm
  exact growsTo_registry ((collect_append hd ha).map _) hm

end Extraction

/-- Two roots that declare one class: the second is not final, has a parent and a method that throws. -/
def growingPages : FileTree :=
  .directory [("a", root "final class C" "public void f()"),
    ("b", root "class C extends p.B" "public void f() throws p.E")]
where
  root (header method : String) : FileTree := .directory [
    ("p", .directory [("C.html", .file ("<h2><b>p</b>C</h2><hr><dl>" ++ header ++
      "</dl><a name=method_detail></a><h3>f</h3><pre>" ++ method ++ "</pre>").toUTF8.toList)])]

/-- The class gets what the second root says of it. -/
theorem run_growsTo_of_growingPages :
    let c := { Config.default with roots := [⟨"a"⟩] }
    ∃ x y m n, Extraction.run growingPages c = .ok x ∧
      Extraction.run growingPages { c with roots := c.roots ++ [⟨"b"⟩] } = .ok y ∧
      x.registry.get? "p.C" = some m ∧ y.registry.get? "p.C" = some n ∧
      (m.kind, m.parent, m.methods.map (·.throws.toList)) = (.final, none, [[]]) ∧
      (n.kind, n.parent, n.methods.map (·.throws.toList)) =
        (.regular, some (.ofName "p.B"), [[.ofName "p.E"]]) ∧ m.GrowsTo n := by
  intro c
  let documents : List DocumentSet := [⟨⟨"a"⟩, [⟨"a/p/C.html"⟩], none⟩]
  let all : List DocumentSet := documents ++ [⟨⟨"b"⟩, [⟨"b/p/C.html"⟩], none⟩]
  let x := Extraction.ofDocuments growingPages documents
  let y := Extraction.ofDocuments growingPages all
  let view (m : ClassModel) := (m.kind, m.parent, m.methods.map (·.throws.toList))
  have hd : Extraction.collect growingPages c = .ok documents := by decide +kernel
  have ha : Extraction.collect growingPages { c with roots := c.roots ++ [⟨"b"⟩] } = .ok all := by
    decide +kernel
  obtain ⟨hxids, hyids, hxview, hyview⟩ :
      x.registry.identities = ["p.C", "p.C#f public [] void ()"] ∧
      y.registry.identities = ["p.C", "p.C#f public [] void ()"] ∧
      (x.registry.get? "p.C").map view = some (.final, none, [[]]) ∧
      (y.registry.get? "p.C").map view =
        some (.regular, some (.ofName "p.B"), [[.ofName "p.E"]]) := by decide +kernel
  have hids : DistinctIds ["p.C", "p.C#f public [] void ()"] := by decide +kernel
  have hx : Extraction.run growingPages c = .ok x :=
    Extraction.run_eq_ok_of_distinctIds hd (hxids ▸ hids)
  have hy : Extraction.run growingPages { c with roots := c.roots ++ [⟨"b"⟩] } = .ok y :=
    Extraction.run_eq_ok_of_distinctIds ha (hyids ▸ hids)
  obtain ⟨m, hm, hmview⟩ := Option.map_eq_some_iff.mp hxview
  obtain ⟨n, hn, hgrows⟩ := Extraction.run_growsTo hx hy "p.C" m hm
  obtain ⟨n', hn', hnview⟩ := Option.map_eq_some_iff.mp hyview
  obtain rfl : n' = n := Option.some.inj (hn'.symm.trans hn)
  exact ⟨x, y, m, n', hx, hy, hm, hn', hmview, hnview, hgrows⟩

end ApiDoc
