import ApiDoc.Registry
import Mathlib.Data.List.Nodup

/-!
# Looking classes up by name

A registry that was filled by insertions holds every model under its own full name
(`isKeyed_ofList`), so what a name finds is told by the models alone (`resolve?_eq_some_iff`): a
name with a dot finds the class of that full name, any other the one class of that simple name.

    r.resolve? name = some q ↔ ∃ m ∈ r.models, m.fullName = q ∧ r.IsFoundBy name m

The simple name of a nested class has a dot itself.  It is taken for a full name, and finds the class
only where it is one: in the empty package (`resolve?_simpleName_iff`).
-/

namespace ApiDoc

theorem qualifiedName_eq_self_iff {package name : String} :
    qualifiedName package name = name ↔ package = "" := by
  unfold qualifiedName
  by_cases hp : package = ""
  · simp [hp]
  · have hlength : (package ++ "." ++ name).length ≠ name.length := by
      simp only [String.length_append, show ".".length = 1 from rfl]
      omega
    simp only [String.isEmpty_iff, hp, if_false, iff_false]
    exact fun h => hlength (congrArg String.length h)

namespace Registry

/-! ## Registered models -/

/-- Every model is registered under its full name. -/
def IsKeyed (r : Registry) : Prop := ∀ e ∈ r.classes.entries, e.1 = e.2.fullName

theorem isKeyed_insert {r : Registry} (h : r.IsKeyed) (m : ClassModel) : (r.insert m).IsKeyed := by
  intro e he
  rcases OrderedMap.mem_insertEntry he with rfl | he
  · rfl
  · exact h e he

/-- No history of insertions leaves a model under another name. -/
theorem isKeyed_ofList (models : List ClassModel) : (ofList models).IsKeyed := by
  have hfold : ∀ r : Registry, r.IsKeyed → (models.foldl insert r).IsKeyed := by
    induction models with
    | nil => exact fun _ h => h
    | cons m rest ih => exact fun r h => ih (r.insert m) (isKeyed_insert h m)
  exact hfold empty fun _ he => absurd he List.not_mem_nil

namespace IsKeyed

variable {r : Registry} {m : ClassModel}

theorem mem_models_iff (h : r.IsKeyed) : m ∈ r.models ↔ (m.fullName, m) ∈ r.classes.entries := by
  constructor
  · intro hm
    obtain ⟨⟨k, n⟩, he, rfl⟩ := List.mem_map.mp hm
    have hk : k = n.fullName := h _ he
    rwa [← hk]
  · exact fun he => List.mem_map_of_mem he

theorem contains_iff (h : r.IsKeyed) {name : String} :
    r.contains name = true ↔ ∃ m ∈ r.models, m.fullName = name := by
  have hsome : r.contains name = true ↔ ∃ m, (name, m) ∈ r.classes.entries := by
    unfold contains OrderedMap.contains
    simp only [Option.isSome_iff_exists, OrderedMap.get?_eq_some_iff]
  rw [hsome]
  constructor
  · rintro ⟨m, he⟩
    have hk : name = m.fullName := h _ he
    subst hk
    exact ⟨m, h.mem_models_iff.mpr he, rfl⟩
  · rintro ⟨m, hm, rfl⟩
    exact ⟨m, h.mem_models_iff.mp hm⟩

theorem contains_fullName (h : r.IsKeyed) (hm : m ∈ r.models) : r.contains m.fullName = true :=
  h.contains_iff.mpr ⟨m, hm, rfl⟩

/-- The models come in the order of their full names, so none comes twice. -/
theorem nodup_models (h : r.IsKeyed) : r.models.Nodup := by
  have hnames : r.classes.entries.Pairwise fun a b => a.2.fullName ≠ b.2.fullName := by
    refine r.classes.ascending.imp_of_mem fun {a b} ha hb hlt he => ?_
    rw [h a ha, h b hb, he] at hlt
    have heq : compare b.2.fullName b.2.fullName = .eq := Std.ReflCmp.compare_self
    rw [heq] at hlt
    cases hlt
  refine List.pairwise_map.mpr (hnames.imp fun hne he => hne ?_)
  rw [he]

end IsKeyed

/-! ## Lookup -/

/-- The class that a name stands for: by its full name if the name has a dot, otherwise by its simple
name, which no other class has. -/
def IsFoundBy (r : Registry) (name : String) (m : ClassModel) : Prop :=
  if '.' ∈ name.toList then m.fullName = name
  else m.name = name ∧ ∀ n ∈ r.models, n.name = name → n = m

/-- The models of a name are one model exactly if it is the only one. -/
theorem filter_eq_singleton_iff {r : Registry} (h : r.IsKeyed) {name : String} {m : ClassModel} :
    r.models.filter (·.name == name) = [m] ↔
      m ∈ r.models ∧ m.name = name ∧ ∀ n ∈ r.models, n.name = name → n = m := by
  have hmem : ∀ n, n ∈ r.models.filter (·.name == name) ↔ n ∈ r.models ∧ n.name = name := by
    intro n
    rw [List.mem_filter, beq_iff_eq]
  constructor
  · intro hf
    simp only [hf, List.mem_singleton] at hmem
    obtain ⟨hm, hname⟩ := (hmem m).mp rfl
    exact ⟨hm, hname, fun n hn hnn => (hmem n).mpr ⟨hn, hnn⟩⟩
  · rintro ⟨hm, hname, honly⟩
    have hall : ∀ n ∈ r.models.filter (·.name == name), n = m := by
      intro n hn
      obtain ⟨hn, hnn⟩ := (hmem n).mp hn
      exact honly n hn hnn
    have hpositive := List.length_pos_of_mem ((hmem m).mpr ⟨hm, hname⟩)
    have hcopies := List.eq_replicate_of_mem hall
    have hnodup : (r.models.filter (·.name == name)).Nodup := List.Nodup.filter _ h.nodup_models
    rw [hcopies, List.nodup_replicate] at hnodup
    have hone : (r.models.filter (·.name == name)).length = 1 := by omega
    rw [hcopies, hone]
    rfl

/-- What a name finds. -/
theorem resolve?_eq_some_iff {r : Registry} (h : r.IsKeyed) {name q : String} :
    r.resolve? name = some q ↔ ∃ m ∈ r.models, m.fullName = q ∧ r.IsFoundBy name m := by
  unfold resolve? IsFoundBy
  by_cases hdot : '.' ∈ name.toList
  · simp only [List.contains_eq_mem, hdot, decide_true, if_true]
    by_cases hc : r.contains name = true
    · rw [if_pos hc, Option.some.injEq]
      constructor
      · rintro rfl
        obtain ⟨m, hm, hname⟩ := h.contains_iff.mp hc
        exact ⟨m, hm, hname, hname⟩
      · rintro ⟨m, -, hq, hname⟩
        exact hname.symm.trans hq
    · rw [if_neg hc]
      refine iff_of_false (by simp) ?_
      rintro ⟨m, hm, -, hname⟩
      exact hc (h.contains_iff.mpr ⟨m, hm, hname⟩)
  · simp only [List.contains_eq_mem, hdot, decide_false, Bool.false_eq_true, if_false]
    have hone := fun m => @filter_eq_singleton_iff r h name m
    split
    · next m hf =>
      obtain ⟨hm, hname, honly⟩ := (hone m).mp hf
      rw [if_pos (h.contains_fullName hm), Option.some.injEq]
      constructor
      · rintro rfl
        exact ⟨m, hm, rfl, hname, honly⟩
      · rintro ⟨n, hn, hq, hnn, -⟩
        rw [← hq, honly n hn hnn]
    · next hf =>
      refine iff_of_false (by simp) ?_
      rintro ⟨m, hm, -, hname, honly⟩
      exact hf m ((hone m).mpr ⟨hm, hname, honly⟩)

/-- The class of its simple name: no other has it, as simple name or as full name. -/
structure IsOnly (r : Registry) (m : ClassModel) : Prop where
  mem : m ∈ r.models
  name : ∀ n ∈ r.models, n.name = m.name → n = m
  fullName : ∀ n ∈ r.models, n.fullName = m.name → n = m

/-- The simple name of the only class that has it finds the class, unless it has a dot and is not the
full name too. -/
theorem resolve?_simpleName_iff {r : Registry} (h : r.IsKeyed) {m : ClassModel} (hm : r.IsOnly m) :
    r.resolve? m.name = some m.fullName ↔ '.' ∉ m.name.toList ∨ m.package = "" := by
  rw [resolve?_eq_some_iff h, ← @qualifiedName_eq_self_iff m.package m.name]
  unfold IsFoundBy
  by_cases hdot : '.' ∈ m.name.toList
  · simp only [hdot, if_true, not_true_eq_false, false_or]
    constructor
    · rintro ⟨n, -, hq, hname⟩
      exact hq.symm.trans hname
    · exact fun hname => ⟨m, hm.mem, rfl, hname⟩
  · simp only [hdot, if_false, not_false_eq_true, true_or, iff_true]
    exact ⟨m, hm.mem, rfl, rfl, hm.name⟩

theorem resolve?_simpleName_eq_none {r : Registry} (h : r.IsKeyed) {m : ClassModel} (hm : r.IsOnly m)
    (hdot : '.' ∈ m.name.toList) (hpackage : m.package ≠ "") : r.resolve? m.name = none := by
  rw [Option.eq_none_iff_forall_ne_some]
  intro q hq
  obtain ⟨n, hn, -, hfound⟩ := (resolve?_eq_some_iff h).mp hq
  rw [IsFoundBy, if_pos hdot] at hfound
  obtain rfl := hm.fullName n hn hfound
  exact hpackage (qualifiedName_eq_self_iff.mp hfound)

/-- In a registry, however it was filled: a simple name that only one class has finds it, exactly if the
name has no dot or the class is in the empty package, and else nothing; one that two classes have finds
none, a full name with a dot its class, and whatever is found is registered. -/
theorem short_names_found (models : List ClassModel) :
    let r := ofList models
    (∀ m, r.IsOnly m →
      (r.resolve? m.name = some m.fullName ↔ '.' ∉ m.name.toList ∨ m.package = "") ∧
      ('.' ∈ m.name.toList → m.package ≠ "" → r.resolve? m.name = none)) ∧
    (∀ m ∈ r.models, ∀ n ∈ r.models, n ≠ m → n.name = m.name → '.' ∉ m.name.toList →
      r.resolve? m.name = none) ∧
    (∀ m ∈ r.models, '.' ∈ m.fullName.toList → r.resolve? m.fullName = some m.fullName) ∧
    ∀ name q, r.resolve? name = some q → r.contains q = true := by
  intro r
  have h : r.IsKeyed := isKeyed_ofList models
  refine ⟨fun m hm => ⟨resolve?_simpleName_iff h hm, resolve?_simpleName_eq_none h hm⟩, ?_, ?_, ?_⟩
  · intro m hm n hn hne hname hdot
    rw [Option.eq_none_iff_forall_ne_some]
    intro q hq
    obtain ⟨c, -, -, hfound⟩ := (resolve?_eq_some_iff h).mp hq
    rw [IsFoundBy, if_neg hdot] at hfound
    obtain ⟨-, honly⟩ := hfound
    exact hne ((honly n hn hname).trans (honly m hm rfl).symm)
  · intro m hm hdot
    refine (resolve?_eq_some_iff h).mpr ⟨m, hm, rfl, ?_⟩
    rw [IsFoundBy, if_pos hdot]
  · intro name q hq
    obtain ⟨m, hm, rfl, -⟩ := (resolve?_eq_some_iff h).mp hq
    exact h.contains_fullName hm

end Registry

/-- An interface without members. -/
def bareModel (package name : String) : ClassModel :=
  ClassDecl.freeze ⟨package, name, .interface, none, [], [], [], []⟩ none

/-- Two classes with one simple name, one of them registered twice, and a nested class in the empty
package. -/
theorem short_names_found_of_sharedName :
    let models := [bareModel "java.util" "List", bareModel "java.util" "Vector", bareModel "" "A.B",
      bareModel "java.awt" "List", bareModel "java.util" "List"]
    let r := Registry.ofList models
    r.resolve? "Vector" = some "java.util.Vector" ∧ r.resolve? "A.B" = some "A.B" ∧
      r.resolve? "List" = none ∧ r.resolve? "java.awt.List" = some "java.awt.List" ∧
      r.contains "java.awt.List" = true := by
  intro models r
  have hmem : ∀ m ∈ models, m ∈ r.models := by decide +kernel
  have hvector : r.IsOnly (bareModel "java.util" "Vector") :=
    ⟨by decide +kernel, by decide +kernel, by decide +kernel⟩
  have hnested : r.IsOnly (bareModel "" "A.B") :=
    ⟨by decide +kernel, by decide +kernel, by decide +kernel⟩
  obtain ⟨honly, hshared, hfull, hkey⟩ := Registry.short_names_found models
  have hawt := hfull (bareModel "java.awt" "List") (hmem _ (by decide +kernel)) (by decide +kernel)
  refine ⟨(honly _ hvector).1.mpr (.inl (by decide)), (honly _ hnested).1.mpr (.inr rfl), ?_, hawt,
    hkey _ _ hawt⟩
  exact hshared (bareModel "java.util" "List") (hmem _ (by decide +kernel))
    (bareModel "java.awt" "List") (hmem _ (by decide +kernel)) (by decide +kernel) rfl (by decide)

/-- A nested class is not found by its simple name, though no other class has it. -/
theorem resolve_nestedName :
    let m := bareModel "java.util" "Map.Entry"
    let r := Registry.ofList [m]
    r.IsOnly m ∧ m.name = "Map.Entry" ∧ m.fullName = "java.util.Map.Entry" ∧
      r.resolve? "Map.Entry" = none :=
  ⟨⟨by decide +kernel, by decide +kernel, by decide +kernel⟩, by decide +kernel, by decide +kernel,
    by decide +kernel⟩

end ApiDoc
