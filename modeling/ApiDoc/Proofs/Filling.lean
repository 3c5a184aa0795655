import ApiDoc.Proofs.WellFormed

/-!
# What filling changes

A value reaches the first constant with its name, wherever it stands (`getElem?_setValue`), and a table
gives each of its names to one constant (`ClassModel.getElem?_constants_fill`): a constant behind others
of its name keeps its value, and so does one the table does not name.  A second table overrides the first
one name by name (`ClassModel.fill_fill`).
-/

namespace ApiDoc

namespace OrderedMap

variable {α β : Type} [Ord α] [Std.TransOrd α] [Std.LawfulEqOrd α]

/-- The entries of both maps; for a key of both the value in the second. -/
def override (m n : OrderedMap α β) : OrderedMap α β :=
  n.entries.foldl (fun r e => r.insert e.1 e.2) m

theorem get?_override {m n : OrderedMap α β} {k : α} :
    (m.override n).get? k = (n.get? k).or (m.get? k) := by
  rw [override, get?_foldl_insert, lookup?_reverse n.ascending]
  rfl

end OrderedMap

/-! ## Values for the first constant of a name -/

/-- The names of constants, in order. -/
def constantNames (l : List Constant) : List String := l.map Constant.name

/-- A constant behind others with some names: it takes the value of its name if it is the first one. -/
def Constant.fillBehind (names : List String) (value? : String → Option String) (c : Constant) :
    Constant :=
  if c.name ∈ names then c else { c with value := (value? c.name).or c.value }

namespace Constant

theorem fillBehind_of_mem {names : List String} {c : Constant} (h : c.name ∈ names)
    (value? : String → Option String) : c.fillBehind names value? = c := if_pos h

theorem fillBehind_of_none {names : List String} {value? : String → Option String} {c : Constant}
    (h : value? c.name = none) : c.fillBehind names value? = c := by
  rw [fillBehind, h, Option.none_or]
  exact ite_self c

theorem fillBehind_fillBehind (names : List String) (f g : String → Option String) (c : Constant) :
    (c.fillBehind names f).fillBehind names g = c.fillBehind names fun n => (g n).or (f n) := by
  by_cases h : c.name ∈ names
  · simp only [fillBehind_of_mem h]
  · have h' : ({ c with value := (f c.name).or c.value } : Constant).name ∉ names := h
    simp only [fillBehind, if_neg h, if_neg h', Option.or_assoc]
    rfl

end Constant

theorem constantNames_setValue (name value : String) (l : List Constant) :
    constantNames (setValue name value l) = constantNames l :=
  map_setValue (fun _ _ => rfl) name value l

/-- A value reaches the first constant with its name. -/
theorem getElem?_setValue (e : String × String) (l : List Constant) (i : Nat) :
    (setValue e.1 e.2 l)[i]? = l[i]?.map
      (Constant.fillBehind ((constantNames l).take i) fun n => OrderedMap.lookup? n [e]) := by
  have hname : OrderedMap.lookup? e.1 [e] = some e.2 := by simp [OrderedMap.lookup?]
  have hother : ∀ {n}, n ≠ e.1 → OrderedMap.lookup? n [e] = none := by
    intro n hn
    simp [OrderedMap.lookup?, hn]
  induction l generalizing i with
  | nil => rfl
  | cons c r ih =>
    rw [setValue]
    by_cases hc : c.name = e.1
    · rw [if_pos hc]
      cases i with
      | zero => simp [Constant.fillBehind, hc, hname]
      | succ i =>
        rw [List.getElem?_cons_succ, List.getElem?_cons_succ]
        refine Option.map_id'.symm.trans (Option.map_congr fun d _ => Eq.symm ?_)
        by_cases hd : d.name = e.1
        · exact Constant.fillBehind_of_mem (by simp [constantNames, hc, hd]) _
        · exact Constant.fillBehind_of_none (hother hd)
    · rw [if_neg hc]
      cases i with
      | zero => exact congrArg some (Constant.fillBehind_of_none (hother hc)).symm
      | succ i =>
        rw [List.getElem?_cons_succ, List.getElem?_cons_succ, ih]
        refine Option.map_congr fun d _ => ?_
        by_cases hd : d.name = e.1
        · simp [Constant.fillBehind, constantNames, hd, Ne.symm hc]
        · rw [Constant.fillBehind_of_none (hother hd), Constant.fillBehind_of_none (hother hd)]

/-- Of the values that are given one after the other the last one for a name counts. -/
theorem getElem?_foldl_setValue (values : List (String × String)) (l : List Constant) (i : Nat) :
    (values.foldl (fun l e => setValue e.1 e.2 l) l)[i]? = l[i]?.map
      (Constant.fillBehind ((constantNames l).take i) fun n => OrderedMap.lookup? n values.reverse) := by
  induction values generalizing l with
  | nil =>
    exact Option.map_id'.symm.trans (Option.map_congr fun c _ => (Constant.fillBehind_of_none rfl).symm)
  | cons e r ih =>
    rw [List.foldl_cons, ih, constantNames_setValue, getElem?_setValue, Option.map_map]
    refine Option.map_congr fun c _ => ?_
    rw [Function.comp_apply, Constant.fillBehind_fillBehind]
    simp only [List.reverse_cons, OrderedMap.lookup?_append]

namespace ClassModel

/-! ## Filling -/

variable (m : ClassModel) (values : ConstantValues)

/-- A table reaches the first constant with each of its names. -/
theorem getElem?_constants_fill (i : Nat) : (m.fill values).constants[i]? = m.constants[i]?.map
    (Constant.fillBehind ((constantNames m.constants).take i) values.get?) := by
  show (values.entries.foldl (fun l e => setValue e.1 e.2 l) m.constants)[i]? = _
  rw [getElem?_foldl_setValue]
  simp only [OrderedMap.lookup?_reverse values.ascending]
  rfl

theorem constantNames_fill : constantNames (m.fill values).constants = constantNames m.constants :=
  map_constants_fill (fun _ _ => rfl) m values

/-- Two tables fill as the first one overridden by the second. -/
theorem fill_fill (newer : ConstantValues) :
    (m.fill values).fill newer = m.fill (values.override newer) := by
  have hconstants :
      ((m.fill values).fill newer).constants = (m.fill (values.override newer)).constants := by
    refine List.ext_getElem? fun i => ?_
    rw [getElem?_constants_fill, constantNames_fill, getElem?_constants_fill, getElem?_constants_fill,
      Option.map_map]
    refine Option.map_congr fun c _ => ?_
    rw [Function.comp_apply, Constant.fillBehind_fillBehind]
    simp only [← OrderedMap.get?_override]
  exact congrArg (fun l => { m with constants := l }) hconstants

/-! ## Names without a constant -/

theorem mem_unknownNames_iff {name : String} : name ∈ m.unknownNames values ↔
    values.contains name = true ∧ ∀ c ∈ m.constants, c.name ≠ name := by
  rw [unknownNames, List.mem_filter, OrderedMap.mem_keys_iff, OrderedMap.contains, Option.isSome_iff_exists]
  simp [hasConstant]

theorem pairwise_unknownNames : (m.unknownNames values).Pairwise fun a b => compare a b = .lt :=
  (List.pairwise_map.mpr values.ascending).filter _

theorem unknownConstants?_eq_some_iff {e : UnknownConstants} : m.unknownConstants? values = some e ↔
    e.className = m.fullName ∧ e.names = m.unknownNames values ∧ e.names ≠ [] := by
  obtain ⟨className, names⟩ := e
  rw [unknownConstants?]
  split
  · next h =>
    simp only [reduceCtorEq, false_iff]
    rintro ⟨-, rfl, hne⟩
    exact hne (List.isEmpty_iff.mp h)
  · next h =>
    rw [List.isEmpty_iff] at h
    simp only [Option.some.injEq, UnknownConstants.mk.injEq]
    constructor
    · rintro ⟨rfl, rfl⟩
      exact ⟨rfl, rfl, h⟩
    · rintro ⟨rfl, rfl, -⟩
      exact ⟨rfl, rfl⟩

/-- Filling touches what the table names and nothing else: a constant takes the value of its name if it is
the first one that has it.  Names without a constant are reported together, in ascending order, and the
others are filled in all the same. -/
theorem fill_changes_first_of_each_name (newer : ConstantValues) :
    (m.fill values).constants = (m.constants.mapIdx fun i c =>
      if ∃ d ∈ m.constants.take i, d.name = c.name then c
      else { c with value := (values.get? c.name).or c.value }) ∧
    { m.fill values with constants := m.constants } = m ∧
    ((∃ e, m.unknownConstants? values = some e) ↔
      ∃ name, values.contains name = true ∧ ∀ c ∈ m.constants, c.name ≠ name) ∧
    (∀ e, m.unknownConstants? values = some e ↔ e.className = m.fullName ∧ e.names ≠ [] ∧
      (e.names.Pairwise fun a b => compare a b = .lt) ∧
      ∀ name, name ∈ e.names ↔ values.contains name = true ∧ ∀ c ∈ m.constants, c.name ≠ name) ∧
    (∀ name, (values.override newer).get? name = (newer.get? name).or (values.get? name)) ∧
    (m.fill values).fill newer = m.fill (values.override newer) := by
  refine ⟨?_, rfl, ?_, fun e => ?_, fun _ => OrderedMap.get?_override, m.fill_fill values newer⟩
  · refine List.ext_getElem? fun i => ?_
    rw [getElem?_constants_fill, List.getElem?_mapIdx]
    refine Option.map_congr fun c _ => ?_
    simp [Constant.fillBehind, constantNames, ← List.map_take]
  · simp only [unknownConstants?_eq_some_iff, ← mem_unknownNames_iff]
    constructor
    · rintro ⟨e, -, hnames, hne⟩
      exact List.exists_mem_of_ne_nil _ (hnames ▸ hne)
    · rintro ⟨name, hname⟩
      exact ⟨⟨m.fullName, m.unknownNames values⟩, rfl, rfl, List.ne_nil_of_mem hname⟩
  · rw [unknownConstants?_eq_some_iff]
    simp only [← mem_unknownNames_iff]
    constructor
    · rintro ⟨hclass, hnames, hne⟩
      exact ⟨hclass, hne, hnames ▸ m.pairwise_unknownNames values, fun name => by rw [hnames]⟩
    · rintro ⟨hclass, hne, hpairwise, hmem⟩
      exact ⟨hclass, OrderedSet.eq_of_pairwise hpairwise (m.pairwise_unknownNames values) hmem, hne⟩

/-- A name without a constant is reported, and the other one is filled in. -/
example :
    let m := repeatingDecl.freeze none
    let values : ConstantValues := .ofList [("LIMIT", "2"), ("MISSING", "3")]
    (m.fill values).constants.map (·.value) = [some "2"] ∧
      m.unknownConstants? values = some ⟨"p.C", ["MISSING"]⟩ := by
  decide +kernel

end ClassModel

end ApiDoc
