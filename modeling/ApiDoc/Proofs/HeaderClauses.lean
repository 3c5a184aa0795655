import ApiDoc.Proofs.Shapes
import ApiDoc.Proofs.Headers

/-!
# The clauses of a class header

A header with both clauses is a head, the tokens behind `extends` and the tokens behind `implements`.
Whichever clause stands first, the three parts are found again (`DividesInto`), and the reader sees
nothing else (`DividesInto.readClassHeader_eq_ok_iff`).  So the order of the clauses changes nothing,
and what is read is told by the head and by the types between the commas of each clause
(`clauses_partition_header`).
-/

namespace ApiDoc

variable {package : String}

/-! ## Types between commas -/

/-- The groups of tokens between commas, without the empty ones. -/
def commaGroups (ts : List Token) : List (List Token) :=
  (ts.splitOn (.word ",")).filter (· ≠ [])

/-- A group of tokens that is a type: a base token with bracket groups behind it. -/
def IsTypeGroup (package : String) (group : List Token) (type : TypeRef) : Prop :=
  ∃ base brackets, group = base :: brackets ∧ LegalType package base brackets type

/-- A list of types is read exactly if each of its groups is a type. -/
theorem listOfTokens_eq_ok_iff {ts : List Token} {types : List TypeRef} :
    TypeRef.listOfTokens package ts = .ok types ↔
      List.Forall₂ (IsTypeGroup package) (commaGroups ts) types := by
  have hgroups : (ts.splitOnP (·.isWord ",")).filter (fun g => !g.isEmpty) = commaGroups ts := by
    refine List.filter_congr fun g _ => ?_
    cases g <;> simp
  unfold TypeRef.listOfTokens
  rw [hgroups, mapM_eq_ok_iff]
  constructor
  · refine List.Forall₂.imp fun g type hg => ?_
    cases g with
    | nil => cases hg
    | cons base brackets => exact ⟨base, brackets, rfl, TypeRef.ofTokens_eq_ok_iff_legalType.mp hg⟩
  · refine List.Forall₂.imp fun g type hg => ?_
    obtain ⟨base, brackets, rfl, htype⟩ := hg
    exact TypeRef.ofTokens_eq_ok_iff_legalType.mpr htype

/-! ## Both orders -/

/-- Neither clause begins among the tokens. -/
structure NoClauseWord (ts : List Token) : Prop where
  not_extends : .word "extends" ∉ ts
  not_implements : .word "implements" ∉ ts

/-- A header with the types it extends in front of those it implements. -/
def extendsFirst (head extended implemented : List Token) : List Token :=
  head ++ .word "extends" :: (extended ++ .word "implements" :: implemented)

/-- A header with the types it implements in front of those it extends. -/
def implementsFirst (head extended implemented : List Token) : List Token :=
  head ++ .word "implements" :: (implemented ++ .word "extends" :: extended)

/-- The parts in which a header is found. -/
structure DividesInto (ts head extended implemented : List Token) : Prop where
  ne_nil : ts ≠ []
  head_eq : headerHead ts = head
  extends_eq : headerClause "extends" "implements" ts = extended
  implements_eq : headerClause "implements" "extends" ts = implemented

section
variable {head extended implemented : List Token} (hhead : NoClauseWord head)
  (hextended : NoClauseWord extended) (himplemented : NoClauseWord implemented)

include hhead hextended himplemented

theorem extendsFirst_divides :
    DividesInto (extendsFirst head extended implemented) head extended implemented where
  ne_nil := by simp [extendsFirst]
  head_eq := headerHead_append hhead.not_extends hhead.not_implements (by simp)
  extends_eq := headerClause_first_eq hhead.not_extends hhead.not_implements
    hextended.not_implements (by simp)
  implements_eq := by
    have hfront : .word "implements" ∉ head ++ .word "extends" :: extended := by
      simp [hhead.not_implements, hextended.not_implements]
    have hlast := headerClause_last_eq hfront himplemented.not_extends
    rwa [List.append_assoc, List.cons_append] at hlast

theorem implementsFirst_divides :
    DividesInto (implementsFirst head extended implemented) head extended implemented where
  ne_nil := by simp [implementsFirst]
  head_eq := headerHead_append hhead.not_extends hhead.not_implements (by simp)
  extends_eq := by
    have hfront : .word "extends" ∉ head ++ .word "implements" :: implemented := by
      simp [hhead.not_extends, himplemented.not_extends]
    have hlast := headerClause_last_eq hfront hextended.not_implements
    rwa [List.append_assoc, List.cons_append] at hlast
  implements_eq := headerClause_first_eq hhead.not_implements hhead.not_extends
    himplemented.not_extends (by simp)

end

/-- The reader sees the parts alone. -/
theorem DividesInto.readClassHeader_eq_ok_iff {ts head extended implemented : List Token}
    (hts : DividesInto ts head extended implemented) {h : ClassHeader} :
    readClassHeader ts package = .ok h ↔ ∃ supertypes interfaces,
      List.Forall₂ (IsTypeGroup package) (commaGroups extended) supertypes ∧
      List.Forall₂ (IsTypeGroup package) (commaGroups implemented) interfaces ∧
      MakesHeader head supertypes interfaces h := by
  rw [ApiDoc.readClassHeader_eq_ok_iff hts.ne_nil, hts.head_eq, hts.extends_eq, hts.implements_eq]
  simp only [listOfTokens_eq_ok_iff]

/-! ## What a header states -/

/-- The kind the words of a head state, `interface` before `final` before `abstract`. -/
inductive StatesKind (head : List Token) : ClassKind → Prop
  | interface (h : .word "interface" ∈ head) : StatesKind head .interface
  | final (hinterface : .word "interface" ∉ head) (h : .word "final" ∈ head) :
    StatesKind head .final
  | abstract (hinterface : .word "interface" ∉ head) (hfinal : .word "final" ∉ head)
    (h : .word "abstract" ∈ head) : StatesKind head .abstract
  | regular (hinterface : .word "interface" ∉ head) (hfinal : .word "final" ∉ head)
    (habstract : .word "abstract" ∉ head) : StatesKind head .regular

theorem statesKind_headerKind (head : List Token) : StatesKind head (headerKind head) := by
  unfold headerKind
  simp only [any_isWord_iff]
  split
  · next h => exact .interface h
  · next hinterface =>
    split
    · next h => exact .final hinterface h
    · next hfinal =>
      split
      · next h => exact .abstract hinterface hfinal h
      · next habstract => exact .regular hinterface hfinal habstract

theorem StatesKind.isInterface_iff {head : List Token} {kind : ClassKind} (h : StatesKind head kind) :
    kind.isInterface = true ↔ .word "interface" ∈ head := by
  cases h with
  | interface h => exact iff_of_true rfl h
  | final hinterface => exact iff_of_false (by decide) hinterface
  | abstract hinterface => exact iff_of_false (by decide) hinterface
  | regular hinterface => exact iff_of_false (by decide) hinterface

theorem TypeRef.isRoot_iff {t : TypeRef} : t.isRoot = true ↔ t = .ofName rootName := by
  obtain ⟨name, dims, hdims⟩ := t
  simp [isRoot, ofName, and_comm]

/-- A head and types make a header unless a class has more than one type to extend. -/
theorem exists_makesHeader_iff {head : List Token} {supertypes interfaces : List TypeRef} :
    (∃ h, MakesHeader head supertypes interfaces h) ↔
      .word "interface" ∈ head ∨ supertypes.length ≤ 1 := by
  have hkind := (statesKind_headerKind head).isInterface_iff
  constructor
  · rintro ⟨h, hmade⟩
    cases hmade with
    | ofInterface hmade hinterface => exact .inl (hkind.mp (hmade ▸ hinterface))
    | ofClass _ _ hone => exact .inr hone
  · intro h
    cases hk : (headerKind head).isInterface with
    | true => exact ⟨_, .ofInterface rfl hk⟩
    | false =>
      have hnot : .word "interface" ∉ head := by simp [← hkind, hk]
      exact ⟨_, .ofClass rfl hk (h.resolve_left hnot)⟩

/-- What a header that is made states. -/
theorem MakesHeader.states {head : List Token} {supertypes interfaces : List TypeRef}
    {h : ClassHeader} (hmade : MakesHeader head supertypes interfaces h) :
    StatesKind head h.kind ∧ h.name = headerName? head ∧
      (.word "interface" ∈ head → h.parent = none ∧ h.implements = supertypes ++ interfaces) ∧
      (.word "interface" ∉ head →
        (∀ t, h.parent = some t ↔ supertypes = [t] ∧ t ≠ .ofName TypeRef.rootName) ∧
          h.implements = interfaces) := by
  have hkind := statesKind_headerKind head
  cases hmade with
  | ofInterface hmade hinterface =>
    subst hmade
    exact ⟨hkind, rfl, fun _ => ⟨rfl, rfl⟩,
      fun hnot => absurd (hkind.isInterface_iff.mp hinterface) hnot⟩
  | ofClass hmade hclass hone =>
    subst hmade
    refine ⟨hkind, rfl, fun hinterface => ?_, fun _ => ⟨fun t => ?_, rfl⟩⟩
    · rw [← hkind.isInterface_iff, hclass] at hinterface
      cases hinterface
    · match supertypes, hone with
      | [], _ => simp
      | [u], _ =>
        simp [Option.filter_eq_some_iff, Bool.eq_false_iff, TypeRef.isRoot_iff]

/-! ## Partition -/

/-- The clauses of a header partition it in either order: both orders give the same header, or both
fail.  They are read exactly if the groups of both clauses are types and a class has at most one
group behind `extends`.  The head alone tells the kind; an interface has all types as its interfaces
and no parent, a class has its one type as parent, unless this is the root class. -/
theorem clauses_partition_header {head extended implemented : List Token} (package : String)
    (hhead : NoClauseWord head) (hextended : NoClauseWord extended)
    (himplemented : NoClauseWord implemented) :
    SameOutcome (readClassHeader (extendsFirst head extended implemented) package)
        (readClassHeader (implementsFirst head extended implemented) package) ∧
      ((∃ h, readClassHeader (extendsFirst head extended implemented) package = .ok h) ↔
        (∀ g ∈ commaGroups extended ++ commaGroups implemented, ∃ type, IsTypeGroup package g type) ∧
          (.word "interface" ∈ head ∨ (commaGroups extended).length ≤ 1)) ∧
      ∀ h, readClassHeader (extendsFirst head extended implemented) package = .ok h →
        StatesKind head h.kind ∧ h.name = headerName? head ∧
        ∃ supertypes interfaces,
          List.Forall₂ (IsTypeGroup package) (commaGroups extended) supertypes ∧
          List.Forall₂ (IsTypeGroup package) (commaGroups implemented) interfaces ∧
          (.word "interface" ∈ head → h.parent = none ∧ h.implements = supertypes ++ interfaces) ∧
          (.word "interface" ∉ head →
            (∀ t, h.parent = some t ↔ supertypes = [t] ∧ t ≠ .ofName "java.lang.Object") ∧
              h.implements = interfaces) := by
  have hfirst := extendsFirst_divides hhead hextended himplemented
  have hsecond := implementsFirst_divides hhead hextended himplemented
  refine ⟨sameOutcome_iff.mpr fun h => ?_, ?_, fun h hread => ?_⟩
  · rw [hfirst.readClassHeader_eq_ok_iff, hsecond.readClassHeader_eq_ok_iff]
  · simp only [hfirst.readClassHeader_eq_ok_iff, List.forall_mem_append, ← exists_forall₂_iff]
    constructor
    · rintro ⟨h, supertypes, interfaces, hsupertypes, hinterfaces, hmade⟩
      refine ⟨⟨⟨_, hsupertypes⟩, _, hinterfaces⟩, ?_⟩
      rw [hsupertypes.length_eq]
      exact exists_makesHeader_iff.mp ⟨h, hmade⟩
    · rintro ⟨⟨⟨supertypes, hsupertypes⟩, interfaces, hinterfaces⟩, hone⟩
      rw [hsupertypes.length_eq] at hone
      obtain ⟨h, hmade⟩ := exists_makesHeader_iff.mpr hone
      exact ⟨h, supertypes, interfaces, hsupertypes, hinterfaces, hmade⟩
  · obtain ⟨supertypes, interfaces, hsupertypes, hinterfaces, hmade⟩ :=
      hfirst.readClassHeader_eq_ok_iff.mp hread
    obtain ⟨hkind, hname, hinterface, hclass⟩ := hmade.states
    exact ⟨hkind, hname, supertypes, interfaces, hsupertypes, hinterfaces, hinterface, hclass⟩

/-- The head of an abstract class. -/
def treeHead : List Token := [.word "public", .word "abstract", .word "class", .word "Tree"]

/-- An abstract class read in both orders, and refused in both orders with two types behind
`extends`. -/
theorem clauses_partition_header_of_tree :
    readClassHeader (implementsFirst treeHead [.word ",", .ref "q.Node"]
        [.word "Walk", .word "[]", .word ",", .ref "r.Copy"]) "p" =
      .ok ⟨.abstract, some "Tree", some (.ofName "q.Node"),
        [⟨"p.Walk", 1, by decide⟩, .ofName "r.Copy"]⟩ ∧
    ¬(∃ h, readClassHeader (extendsFirst treeHead [.ref "q.Node", .word ",", .ref "q.Leaf"] []) "p" =
      .ok h) ∧
    ∃ e, readClassHeader (implementsFirst treeHead [.ref "q.Node", .word ",", .ref "q.Leaf"] [])
      "p" = .error e := by
  have hhead : NoClauseWord treeHead := ⟨by decide, by decide⟩
  have hone : NoClauseWord [.word ",", .ref "q.Node"] := ⟨by decide, by decide⟩
  have htypes : NoClauseWord [.word "Walk", .word "[]", .word ",", .ref "r.Copy"] :=
    ⟨by decide, by decide⟩
  have htwo : NoClauseWord [.ref "q.Node", .word ",", .ref "q.Leaf"] := ⟨by decide, by decide⟩
  have hnone : NoClauseWord [] := ⟨by decide, by decide⟩
  obtain ⟨hsame, -⟩ := clauses_partition_header "p" hhead hone htypes
  obtain ⟨hfails, hread, -⟩ := clauses_partition_header "p" hhead htwo hnone
  have hmany : ¬(.word "interface" ∈ treeHead ∨
      (commaGroups [.ref "q.Node", .word ",", .ref "q.Leaf"]).length ≤ 1) := by decide
  have hrefused := mt (fun h => (hread.mp h).2) hmany
  refine ⟨(sameOutcome_iff.mp hsame _).mp (by decide +kernel), hrefused, ?_⟩
  rcases hfails with ⟨h, hfirst, -⟩ | ⟨-, hsecond⟩
  · exact absurd ⟨h, hfirst⟩ hrefused
  · exact hsecond

end ApiDoc
