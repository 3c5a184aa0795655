import ApiDoc.Proofs.Grammar
import ApiDoc.Proofs.TypeTexts
import ApiDoc.Proofs.WellFormed
import ApiDoc.Registry

/-!
# Identities of members

The identity of a member is its owner, what is named, a word and the details, with `#` and blanks
between them (`Member.identity_eq`).  None of these separators occurs in the part in front of it, so
an identity can be cut into its parts again, and the parts say of which kind the member is and what
its key is.  Two members have one identity exactly if they have one owner and merging takes them for the
same member (`Member.identity_eq_iff`).

So the members of a model have different identities, and merging unites the sets of identities
(`identities_tell_members`).
-/

namespace ApiDoc

/-! ## Cutting -/

/-- A text is told by its parts in front of the first separator and behind it. -/
theorem append_separator_inj {c : Char} {s : String} (hs : s.toList = [c]) {a b a' b' : String}
    (ha : c ∉ a.toList) (ha' : c ∉ a'.toList) :
    a ++ (s ++ b) = a' ++ (s ++ b') ↔ a = a' ∧ b = b' := by
  constructor
  · intro h
    have hlist : ∀ a b : String, (a ++ (s ++ b)).toList = a.toList ++ c :: b.toList := by
      simp [String.toList_append, hs]
    have hcut := cutAt?_eq_some_iff.mpr ⟨hlist a' b', ha'⟩
    rw [← h, cutAt?_eq_some_iff.mpr ⟨hlist a b, ha⟩] at hcut
    simpa only [Option.some.injEq, Prod.mk.injEq, String.toList_inj] using hcut
  · rintro ⟨rfl, rfl⟩
    rfl

/-- Nonempty texts without commas are what stands between the commas of their list. -/
theorem splitOn_intercalate_comma {texts : List String}
    (h : ∀ s ∈ texts, s ≠ "" ∧ ',' ∉ s.toList) :
    ((",".intercalate texts).toList.splitOn ',').filter (!·.isEmpty) = texts.map String.toList := by
  rw [String.toList_intercalate]
  by_cases hne : texts = []
  · subst hne
    rfl
  · have hcomma : ∀ l ∈ texts.map String.toList, ',' ∉ l := by
      intro l hl
      obtain ⟨s, hs, rfl⟩ := List.mem_map.mp hl
      exact (h s hs).2
    have hsplit := List.splitOn_intercalate ',' hcomma (by simpa using hne)
    show (List.splitOn ',' ([','].intercalate _)).filter _ = _
    rw [hsplit, List.filter_eq_self]
    intro l hl
    obtain ⟨s, hs, rfl⟩ := List.mem_map.mp hl
    simpa using (h s hs).1

theorem intercalate_comma_inj {ls ms : List String} (hl : ∀ s ∈ ls, s ≠ "" ∧ ',' ∉ s.toList)
    (hm : ∀ s ∈ ms, s ≠ "" ∧ ',' ∉ s.toList) (h : ",".intercalate ls = ",".intercalate ms) :
    ls = ms := by
  have hlists := splitOn_intercalate_comma hl
  rw [h, splitOn_intercalate_comma hm] at hlists
  exact (List.map_injective_iff.mpr (fun _ _ e => String.toList_injective e) hlists).symm

/-! ## Parts of identities -/

namespace Access

theorem identityWord_injective : Function.Injective identityWord := by
  intro a b
  cases a <;> cases b <;> decide

theorem identityWord_ne (a : Access) : a.identityWord ≠ "field" ∧ a.identityWord ≠ "constant" := by
  cases a <;> decide

theorem not_mem_identityWord (a : Access) : ' ' ∉ a.identityWord.toList := by
  cases a <;> decide

end Access

/-- Modifiers are told from their brackets, whatever stands behind them. -/
theorem identityFlags_append_inj {f g : Flags} {s t : String} :
    identityFlags f ++ s = identityFlags g ++ t ↔ f = g ∧ s = t := by
  have hopen : ∀ f : Flags, ']' ∉ ("[" ++ " ".intercalate f.keywords).toList := by
    rintro ⟨_ | _, _ | _, _ | _⟩ <;> decide
  have hinj : ∀ f g : Flags,
      "[" ++ " ".intercalate f.keywords = "[" ++ " ".intercalate g.keywords ↔ f = g := by
    rintro ⟨_ | _, _ | _, _ | _⟩ ⟨_ | _, _ | _, _ | _⟩ <;> decide
  have hparts : ∀ (f : Flags) (s : String),
      identityFlags f ++ s = "[" ++ " ".intercalate f.keywords ++ ("]" ++ s) := by
    intro f s
    rw [identityFlags, String.append_assoc]
  rw [hparts, hparts, append_separator_inj (c := ']') rfl (hopen f) (hopen g), hinj]

namespace TypeRef

theorem IsRead.not_mem_print {t : TypeRef} (h : t.IsRead) :
    ∀ c ∈ [' ', ','], c ∉ t.print.toList := by
  have hother : ∀ c ∈ [' ', ','], ¬(c ∈ ['[', ']'] ∨ c = '.' ∨ Text.isNameChar c = true) :=
    List.forall_mem_cons.mpr ⟨by decide +kernel, List.forall_mem_singleton.mpr (by decide +kernel)⟩
  exact fun c hc hmem => hother c hc (mem_print (isRead_iff.mp h) c hmem)

theorem IsRead.print_ne {t : TypeRef} (h : t.IsRead) : t.print ≠ "" := by
  intro e
  have hne := (isTypeName_iff.mp (isRead_iff.mp h)).1
  rw [print, String.append_eq_empty_iff] at e
  exact hne (by rw [e.1]; rfl)

/-- Types are read back from the list of their printed forms. -/
theorem filterMap_parse?_print {types : List TypeRef} (h : ∀ t ∈ types, t.IsRead) :
    (types.map print).filterMap parse? = types := by
  rw [List.filterMap_map, List.filterMap_congr (g := some), List.filterMap_some]
  intro t ht
  exact parse?_print (isRead_iff.mp (h t ht))

end TypeRef

theorem identityArguments_inj {as bs : List Argument} (ha : ∀ a ∈ as, a.type.IsRead)
    (hb : ∀ b ∈ bs, b.type.IsRead) :
    identityArguments as = identityArguments bs ↔ argumentTypes as = argumentTypes bs := by
  have hread : ∀ {l : List Argument}, (∀ a ∈ l, a.type.IsRead) →
      ∀ t ∈ argumentTypes l, t.IsRead := by
    intro l hl t ht
    obtain ⟨a, ha, rfl⟩ := List.mem_map.mp ht
    exact hl a ha
  have htexts : ∀ {l : List TypeRef}, (∀ t ∈ l, t.IsRead) →
      ∀ s ∈ l.map TypeRef.print, s ≠ "" ∧ ',' ∉ s.toList := by
    intro l hl s hs
    obtain ⟨t, ht, rfl⟩ := List.mem_map.mp hs
    exact ⟨(hl t ht).print_ne, (hl t ht).not_mem_print ',' (by simp)⟩
  constructor
  · intro h
    have hlist : ",".intercalate ((argumentTypes as).map TypeRef.print) =
        ",".intercalate ((argumentTypes bs).map TypeRef.print) := by
      simpa [identityArguments, ← String.toList_inj] using h
    have hprints := intercalate_comma_inj (htexts (hread ha)) (htexts (hread hb)) hlist
    rw [← TypeRef.filterMap_parse?_print (hread ha), hprints,
      TypeRef.filterMap_parse?_print (hread hb)]
  · intro h
    rw [identityArguments, h, identityArguments]

/-! ## Members -/

/-- A member of any kind. -/
inductive Member
  | constructor (c : Constructor)
  | method (m : Method)
  | field (f : Field)
  | constant (c : Constant)
deriving DecidableEq

namespace Member

def identity : Member → String → String
  | .constructor c, owner => c.identity owner
  | .method m, owner => m.identity owner
  | .field f, owner => f.identity owner
  | .constant c, owner => c.identity owner

/-- Whether merging takes two members for the same: they are of one kind and have one key. -/
def Same : Member → Member → Prop
  | .constructor c, .constructor d => c.isSame d = true
  | .method m, .method n => m.isSame n = true
  | .field f, .field g => f = g
  | .constant c, .constant d => c.field = d.field
  | _, _ => False

/-- The types are read from texts, and the name, if there is one, is the name of a member. -/
def Legal : Member → Prop
  | .constructor c => ∀ a ∈ c.arguments, a.type.IsRead
  | .method m => isMemberName m.name = true ∧ m.returnType.IsRead ∧ ∀ a ∈ m.arguments, a.type.IsRead
  | .field f => isMemberName f.name = true ∧ f.type.IsRead
  | .constant c => isMemberName c.name = true ∧ c.field.type.IsRead

instance : DecidablePred Legal
  | .constructor c => inferInstanceAs (Decidable (∀ a ∈ c.arguments, a.type.IsRead))
  | .method m => inferInstanceAs
      (Decidable (isMemberName m.name = true ∧ m.returnType.IsRead ∧ ∀ a ∈ m.arguments, a.type.IsRead))
  | .field f => inferInstanceAs (Decidable (isMemberName f.name = true ∧ f.type.IsRead))
  | .constant c => inferInstanceAs (Decidable (isMemberName c.name = true ∧ c.field.type.IsRead))

/-! ## The parts of an identity -/

/-- What is named behind the owner. -/
def subject : Member → String
  | .constructor _ => "<init>"
  | .method m => m.name
  | .field f => f.name
  | .constant c => c.name

/-- The word behind the subject. -/
def word : Member → String
  | .constructor c => c.access.identityWord
  | .method m => m.access.identityWord
  | .field _ => "field"
  | .constant _ => "constant"

/-- Access, modifiers and type of a field. -/
def detailsOfField (f : Field) : String :=
  f.access.identityWord ++ (" " ++ (identityFlags f.flags ++ (" " ++ f.type.print)))

/-- What stands behind the word. -/
def details : Member → String
  | .constructor c => identityArguments c.arguments
  | .method m => identityFlags m.flags ++
      (" " ++ (m.returnType.print ++ (" " ++ identityArguments m.arguments)))
  | .field f => detailsOfField f
  | .constant c => detailsOfField c.field

theorem identity_eq (x : Member) (owner : String) :
    x.identity owner =
      owner ++ ("#" ++ (x.subject ++ (" " ++ (x.word ++ (" " ++ x.details))))) := by
  cases x with
  | constructor c =>
    have hsubject : "#<init> " = "#" ++ ("<init>" ++ " ") := rfl
    simp only [identity, Constructor.identity, subject, word, details, hsubject, String.append_assoc]
  | method m => simp only [identity, Method.identity, subject, word, details, String.append_assoc]
  | field f =>
    simp only [identity, Field.identity, Field.identityOfKind, subject, word, details, detailsOfField,
      String.append_assoc]
  | constant c =>
    simp only [identity, Constant.identity, Field.identityOfKind, subject, word, details,
      detailsOfField, String.append_assoc]
    rfl

theorem not_mem_subject {x : Member} (h : x.Legal) : ' ' ∉ x.subject.toList := by
  have hinit : ' ' ∉ "<init>".toList := by decide
  have hblank : Text.isNameChar ' ' = false := by decide +kernel
  cases x with
  | constructor c => exact hinit
  | method m => exact not_mem_of_isMemberName h.1 hblank
  | field f => exact not_mem_of_isMemberName h.1 hblank
  | constant c => exact not_mem_of_isMemberName h.1 hblank

theorem not_mem_word (x : Member) : ' ' ∉ x.word.toList := by
  have hkind : ' ' ∉ "field".toList ∧ ' ' ∉ "constant".toList := by decide
  cases x with
  | constructor c => exact c.access.not_mem_identityWord
  | method m => exact m.access.not_mem_identityWord
  | field f => exact hkind.1
  | constant c => exact hkind.2

/-- The name of a member is not what stands for constructors. -/
theorem init_ne_of_isMemberName {name : String} (h : isMemberName name = true) :
    "<init>" ≠ name := by
  have hangle : Text.isNameChar '<' = false := by decide +kernel
  rintro rfl
  exact not_mem_of_isMemberName h hangle (by decide)

/-- A field is told by its name and its details. -/
theorem field_eq_iff {f g : Field} (hf : f.type.IsRead) (hg : g.type.IsRead) (word : String) :
    f = g ↔ f.name = g.name ∧ word = word ∧ detailsOfField f = detailsOfField g := by
  unfold detailsOfField
  rw [append_separator_inj rfl f.access.not_mem_identityWord g.access.not_mem_identityWord,
    Access.identityWord_injective.eq_iff, identityFlags_append_inj, String.append_right_inj,
    hf.print_inj hg]
  obtain ⟨access, flags, name, type⟩ := f
  obtain ⟨access', flags', name', type'⟩ := g
  simp only [Field.mk.injEq, true_and]
  tauto

theorem detailsOfMethod_inj {m n : Method} (hm : (method m).Legal) (hn : (method n).Legal) :
    (method m).details = (method n).details ↔ m.flags = n.flags ∧ m.returnType = n.returnType ∧
      argumentTypes m.arguments = argumentTypes n.arguments := by
  have hblank := hm.2.1.not_mem_print ' ' (by simp)
  have hblank' := hn.2.1.not_mem_print ' ' (by simp)
  unfold details
  rw [identityFlags_append_inj, String.append_right_inj, append_separator_inj rfl hblank hblank',
    hm.2.1.print_inj hn.2.1, identityArguments_inj hm.2.2 hn.2.2]

/-- The parts behind the owner say of which kind a member is and what its key is. -/
theorem same_iff {x y : Member} (hx : x.Legal) (hy : y.Legal) :
    x.Same y ↔ x.subject = y.subject ∧ x.word = y.word ∧ x.details = y.details := by
  have hwords : "field" ≠ "constant" := by decide
  cases x with
  | constructor c =>
    cases y with
    | constructor d =>
      show c.isSame d = true ↔ "<init>" = "<init>" ∧ c.access.identityWord = d.access.identityWord ∧
        identityArguments c.arguments = identityArguments d.arguments
      rw [Constructor.isSame_iff, Access.identityWord_injective.eq_iff, identityArguments_inj hx hy]
      simp [Constructor.key]
    | method n => exact iff_of_false id fun h => init_ne_of_isMemberName hy.1 h.1
    | field g => exact iff_of_false id fun h => init_ne_of_isMemberName hy.1 h.1
    | constant d => exact iff_of_false id fun h => init_ne_of_isMemberName hy.1 h.1
  | method m =>
    cases y with
    | constructor d => exact iff_of_false id fun h => init_ne_of_isMemberName hx.1 h.1.symm
    | method n =>
      show m.isSame n = true ↔ m.name = n.name ∧ m.access.identityWord = n.access.identityWord ∧ _
      rw [Method.isSame_iff, Access.identityWord_injective.eq_iff, detailsOfMethod_inj hx hy]
      simp only [Method.key, Prod.mk.injEq]
      tauto
    | field g => exact iff_of_false id fun h => m.access.identityWord_ne.1 h.2.1
    | constant d => exact iff_of_false id fun h => m.access.identityWord_ne.2 h.2.1
  | field f =>
    cases y with
    | constructor d => exact iff_of_false id fun h => init_ne_of_isMemberName hx.1 h.1.symm
    | method n => exact iff_of_false id fun h => n.access.identityWord_ne.1 h.2.1.symm
    | field g => exact field_eq_iff hx.2 hy.2 "field"
    | constant d => exact iff_of_false id fun h => hwords h.2.1
  | constant c =>
    cases y with
    | constructor d => exact iff_of_false id fun h => init_ne_of_isMemberName hx.1 h.1.symm
    | method n => exact iff_of_false id fun h => n.access.identityWord_ne.2 h.2.1.symm
    | field g => exact iff_of_false id fun h => hwords h.2.1.symm
    | constant d => exact field_eq_iff hx.2 hy.2 "constant"

/-- Two identities are equal exactly if the owners are and merging takes the members for the same. -/
theorem identity_eq_iff {x y : Member} (hx : x.Legal) (hy : y.Legal) {owner other : String}
    (ho : (TypeRef.parse? owner).isSome = true) (hp : (TypeRef.parse? other).isSome = true) :
    x.identity owner = y.identity other ↔ owner = other ∧ x.Same y := by
  obtain ⟨t, ht⟩ := Option.isSome_iff_exists.mp ho
  obtain ⟨u, hu⟩ := Option.isSome_iff_exists.mp hp
  have hhash := TypeRef.not_mem_of_parse? ht '#' (by simp)
  have hhash' := TypeRef.not_mem_of_parse? hu '#' (by simp)
  rw [identity_eq, identity_eq, append_separator_inj rfl hhash hhash',
    append_separator_inj rfl (not_mem_subject hx) (not_mem_subject hy),
    append_separator_inj rfl x.not_mem_word y.not_mem_word, same_iff hx hy]

end Member

/-! ## Members of models -/

namespace ClassModel

/-- All members in the order of their identities. -/
def members (m : ClassModel) : List Member :=
  m.constructors.map .constructor ++ m.methods.map .method ++ m.fields.map .field ++
    m.constants.map .constant

/-- The full name is read as a type, and the members are legal. -/
def Legal (m : ClassModel) : Prop :=
  (TypeRef.parse? m.fullName).isSome = true ∧ ∀ x ∈ m.members, x.Legal

instance : DecidablePred Legal := fun _ => inferInstanceAs (Decidable (_ ∧ _))

theorem memberIdentities_eq (m : ClassModel) :
    m.memberIdentities = m.members.map (·.identity m.fullName) := by
  simp only [memberIdentities, members, List.map_append, List.map_map]
  rfl

/-- In a well-formed model no two members are the same. -/
theorem pairwise_members {m : ClassModel} (h : m.WellFormed) :
    m.members.Pairwise fun x y => ¬x.Same y := by
  have hconstructors : m.constructors.Pairwise fun c d => ¬c.isSame d = true :=
    (List.pairwise_map.mp h.constructors).imp fun {c d} hne => mt (Constructor.isSame_iff c d).mp hne
  have hmethods : m.methods.Pairwise fun n o => ¬n.isSame o = true :=
    (List.pairwise_map.mp h.methods).imp fun {n o} hne => mt (Method.isSame_iff n o).mp hne
  have hconstants : m.constants.Pairwise fun c d => ¬c.field = d.field :=
    List.pairwise_map.mp h.constants
  have hfields : m.fields.Pairwise fun f g => ¬f = g := h.fields
  -- members from different lists are of different kinds
  simp only [members, List.pairwise_append, List.pairwise_map, Member.Same, hconstructors, hmethods,
    hfields, hconstants, List.mem_append, List.mem_map, true_and]
  refine ⟨⟨?_, ?_⟩, ?_⟩
  · rintro _ ⟨c, -, rfl⟩ _ ⟨n, -, rfl⟩
    exact id
  · rintro _ (⟨c, -, rfl⟩ | ⟨n, -, rfl⟩) _ ⟨f, -, rfl⟩
    · exact id
    · exact id
  · rintro _ ((⟨c, -, rfl⟩ | ⟨n, -, rfl⟩) | ⟨f, -, rfl⟩) _ ⟨d, -, rfl⟩
    · exact id
    · exact id
    · exact id

theorem nodup_memberIdentities {m : ClassModel} (h : m.WellFormed) (hl : m.Legal) :
    m.memberIdentities.Nodup := by
  rw [memberIdentities_eq, List.Nodup, List.pairwise_map]
  refine (pairwise_members h).imp_of_mem fun {x y} hx hy hne he => hne ?_
  exact ((Member.identity_eq_iff (hl.2 x hx) (hl.2 y hy) hl.1 hl.1).mp he).2

end ClassModel

theorem Constructor.identity_congr {c d : Constructor} (h : c.key = d.key) (owner : String) :
    c.identity owner = d.identity owner := by
  obtain ⟨haccess, harguments⟩ := Prod.mk.inj h
  rw [identity, identityArguments, haccess, harguments]
  rfl

theorem Method.identity_congr {m n : Method} (h : m.key = n.key) (owner : String) :
    m.identity owner = n.identity owner := by
  simp only [key, Prod.mk.injEq] at h
  obtain ⟨haccess, hflags, hname, htype, harguments⟩ := h
  rw [identity, identityArguments, haccess, hflags, hname, htype, harguments]
  rfl

/-- Merging unites the identities, whatever the names. -/
theorem ClassModel.mem_memberIdentities_of_merge {a b m : ClassModel} (h : a.merge b = .ok m)
    (s : String) : s ∈ m.memberIdentities ↔ s ∈ a.memberIdentities ∨ s ∈ b.memberIdentities := by
  obtain ⟨hc, rfl⟩ := merge_eq_ok_iff.mp h
  -- an identity depends on the key of its member alone
  have hconstructors : s ∈ (a.join b).constructors.map (·.identity a.fullName) ↔
      s ∈ a.constructors.map (·.identity a.fullName) ∨
        s ∈ b.constructors.map (·.identity a.fullName) :=
    Absorption.mem_map_addAll constructorAbsorption_lawful fun _ _ hk =>
      Constructor.identity_congr hk a.fullName
  have hmethods : s ∈ (a.join b).methods.map (·.identity a.fullName) ↔
      s ∈ a.methods.map (·.identity a.fullName) ∨ s ∈ b.methods.map (·.identity a.fullName) :=
    Absorption.mem_map_addAll methodAbsorption_lawful fun _ _ hk =>
      Method.identity_congr hk a.fullName
  have hfields : s ∈ (a.join b).fields.map (·.identity a.fullName) ↔
      s ∈ ([] : List Field).map (·.identity a.fullName) ∨
        s ∈ (a.fields ++ b.fields).map (·.identity a.fullName) :=
    Absorption.mem_map_addAll distinct_lawful fun _ _ hk => congrArg (Field.identity · a.fullName) hk
  have hconstants : s ∈ (a.join b).constants.map (·.identity a.fullName) ↔
      s ∈ ([] : List Constant).map (·.identity a.fullName) ∨
        s ∈ (a.constants ++ b.constants).map (·.identity a.fullName) :=
    Absorption.mem_map_addAll constantAbsorption_lawful fun _ _ hk =>
      congrArg (Field.identityOfKind · "constant" a.fullName) hk
  unfold memberIdentities
  simp only [List.map_append, List.mem_append, List.map_nil, List.not_mem_nil, false_or,
    fullName_join, ← hc.fullName, hconstructors, hmethods] at hfields hconstants ⊢
  rw [hfields, hconstants]
  apply iff_of_eq
  ac_rfl

/-! ## Identities and merging -/

/-- Members have one identity exactly if they are of one owner and the same for merging.  So no two
members of a model have one identity, and merging unites the identities. -/
theorem identities_tell_members :
    (∀ (x y : Member) (owner other : String), x.Legal → y.Legal →
      (TypeRef.parse? owner).isSome = true → (TypeRef.parse? other).isSome = true →
      (x.identity owner = y.identity other ↔ owner = other ∧ x.Same y)) ∧
    (∀ m : ClassModel, m.Reachable → m.Legal → m.memberIdentities.Nodup) ∧
    ∀ a b m : ClassModel, a.merge b = .ok m →
      ∀ s, s ∈ m.memberIdentities ↔ s ∈ a.memberIdentities ∨ s ∈ b.memberIdentities := by
  refine ⟨?_, ?_, ?_⟩
  · intro x y owner other hx hy ho hp
    exact Member.identity_eq_iff hx hy ho hp
  · intro m hm hl
    exact ClassModel.nodup_memberIdentities hm.wellFormed hl
  · intro a b m h s
    exact ClassModel.mem_memberIdentities_of_merge h s

/-- A class whose constant, field and methods have one name, with constructors that differ in the
dimensions of a type. -/
def overloadingDecl : ClassDecl where
  package := "p"
  name := "C"
  kind := .regular
  parent := none
  implements := []
  fields := [⟨.isPublic, .staticFinal, "x", .ofName "int", some "1"⟩,
    ⟨.isPublic, .none, "x", .ofName "int", none⟩]
  constructors := [⟨.isPublic, [⟨.ofName "int", "n"⟩], []⟩,
    ⟨.isPublic, [⟨⟨"int", 3, by decide⟩, "n"⟩], []⟩]
  methods := [⟨.isPublic, .none, "x", .ofName "int", [⟨.ofName "int", "a"⟩], []⟩,
    ⟨.isPackagePrivate, .none, "x", .ofName "int", [⟨.ofName "int", "a"⟩], []⟩]

/-- Two methods that differ in what they throw, and two sources of the class. -/
theorem identities_of_overloads :
    let x : Member := .method ⟨.isPublic, .none, "x", .ofName "int", [⟨.ofName "int", "a"⟩], ∅⟩
    let y : Member := .method
      ⟨.isPublic, .none, "x", .ofName "int", [⟨.ofName "int", "b"⟩], .ofList [.ofName "p.E"]⟩
    (x.Legal ∧ y.Legal ∧ x.Same y ∧ x.identity "p.C" = y.identity "p.C") ∧
    ∃ m, (overloadingDecl.freeze (some ⟨"a/C.html"⟩)).merge
        (overloadingDecl.freeze (some ⟨"b/C.html"⟩)) = .ok m ∧
      m.Reachable ∧ m.Legal ∧ m.memberIdentities.length = 6 ∧ m.memberIdentities.Nodup ∧
      ∀ s, s ∈ m.memberIdentities ↔
        s ∈ (overloadingDecl.freeze (some ⟨"a/C.html"⟩)).memberIdentities ∨
          s ∈ (overloadingDecl.freeze (some ⟨"b/C.html"⟩)).memberIdentities := by
  intro x y
  have hx : x.Legal := by decide +kernel
  have hy : y.Legal := by decide +kernel
  have ho : (TypeRef.parse? "p.C").isSome = true := by decide +kernel
  have hs : x.Same y := by
    show Method.isSame _ _ = true
    decide +kernel
  obtain ⟨hidentity, hnodup, hunion⟩ := identities_tell_members
  have hm := ClassModel.merge_eq_ok_iff
    (a := overloadingDecl.freeze (some ⟨"a/C.html"⟩)) (b := overloadingDecl.freeze (some ⟨"b/C.html"⟩))
    |>.mpr ⟨⟨rfl, rfl, fun s t hs _ => by cases hs⟩, rfl⟩
  have hr := ClassModel.Reachable.merge (.freeze _ _) (.freeze _ _) hm
  have hl : ((overloadingDecl.freeze (some ⟨"a/C.html"⟩)).join
      (overloadingDecl.freeze (some ⟨"b/C.html"⟩))).Legal := by decide +kernel
  exact ⟨⟨hx, hy, hs, (hidentity x y "p.C" "p.C" hx hy ho ho).mpr ⟨rfl, hs⟩⟩, _, hm, hr, hl,
    by decide +kernel, hnodup _ hr hl, hunion _ _ _ hm⟩

end ApiDoc
