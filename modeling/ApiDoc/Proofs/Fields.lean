import ApiDoc.Proofs.RoundTrip

/-!
# Printed fields and constants read back

The value of a constant is printed behind ` = ` as it is, so it is read back if it is a text that a
token can have: everything behind the first `=` is the literal again, whatever marks or further `=`
are in it (`tokenize_value`).  A plain field is printed without the value of its declaration, and
read back without it.  So reading, classifying and printing again gives what the first reading gave
(`printed_fields_read_back`).
-/

namespace ApiDoc

variable {package : String}

/-! ## The grammar of fields -/

/-- What stands behind the name of a field: nothing, or `=` and the token of the value, if any. -/
inductive ValueTokens : List Token → Option String → Prop
  | none : ValueTokens [] none
  | equals (after : List Token) : ValueTokens (.word "=" :: after) (after.head?.map Token.text)

/-- A field: modifiers, its type, its name, its value. -/
inductive FieldTokens (package : String) : List Token → FieldDecl → Prop
  | mk {modifiers gs after : List Token} {base : Token} {type : TypeRef} {name : String}
    {value : Option String} (hmodifiers : .word "=" ∉ modifiers)
    (hgs : ∀ g ∈ gs, g.isBrackets = true) (htype : TypeRef.ofTokens package base gs = .ok type)
    (hname : isMemberName name = true) (hafter : ValueTokens after value) :
    FieldTokens package (modifiers ++ base :: (gs ++ .word name :: after))
      ⟨(readModifiers modifiers).1, (readModifiers modifiers).2, name, type, value⟩

/-- The base token of a type is no `=`. -/
theorem ne_equals_of_ofTokens {base : Token} {gs : List Token} {t : TypeRef}
    (h : TypeRef.ofTokens package base gs = .ok t) : base ≠ .word "=" := by
  rintro rfl
  obtain ⟨u, hu, -⟩ := TypeRef.ofTokens_eq_ok_iff.mp h
  have hparse : TypeRef.parse? "=" = none := by decide +kernel
  simp only [TypeRef.ofToken, TypeRef.qualify, hparse] at hu
  split at hu <;> cases hu

theorem fieldTokens_of_readField {ts : List Token} {d : FieldDecl}
    (h : readField ts package = .ok d) : FieldTokens package ts d := by
  unfold readField at h
  split at h
  · cases h
  · split at h
    next decl value hcut =>
    -- the declaration ends at the first `=`, or with the tokens
    obtain ⟨after, rfl, hequals, hafter⟩ : ∃ after, ts = decl ++ after ∧
        .word "=" ∉ decl ∧ ValueTokens after value := by
      split at hcut
      · next front after hfound =>
        cases hcut
        obtain ⟨rfl, hequals⟩ := cutAtWord?_eq_some_iff.mp hfound
        exact ⟨_, rfl, hequals, .equals after⟩
      · next hnone =>
        cases hcut
        exact ⟨[], by simp, cutAtWord?_eq_none_iff.mp hnone, .none⟩
    split at h
    · cases h
    · next name hlast =>
      split at h
      · cases h
      · next modifiers base gs htypes =>
        obtain ⟨type, htype, h⟩ := Except.bind_eq_ok_iff.mp h
        cases h
        obtain ⟨⟨front, rfl⟩, hmember⟩ := getLast?_memberName?_eq_some_iff.mp hlast
        rw [List.dropLast_concat] at htypes
        obtain ⟨rfl, -, hgs⟩ := splitType?_eq_some_iff.mp htypes
        have hlist : modifiers ++ base :: gs ++ [.word name] ++ after =
            modifiers ++ base :: (gs ++ .word name :: after) := by simp
        rw [hlist]
        exact .mk (fun hmem => hequals (by simp [hmem])) hgs htype hmember hafter

theorem readField_of_fieldTokens {ts : List Token} {d : FieldDecl}
    (h : FieldTokens package ts d) : readField ts package = .ok d := by
  unfold readField
  cases h with
  | @mk modifiers gs after base type name value hmodifiers hgs htype hname hafter =>
    have hnot : .word "=" ∉ modifiers ++ base :: gs ++ [.word name] := by
      intro hmem
      rcases List.mem_append.mp hmem with hmem | hmem
      · rcases List.mem_append.mp hmem with hmem | hmem
        · exact hmodifiers hmem
        rcases List.mem_cons.mp hmem with hmem | hmem
        · exact ne_equals_of_ofTokens htype hmem.symm
        · exact absurd (hgs _ hmem) (by decide)
      · exact ne_of_isMemberName hname (by decide +kernel) (List.mem_singleton.mp hmem)
    have hlist : modifiers ++ base :: (gs ++ .word name :: after) =
        modifiers ++ base :: gs ++ [.word name] ++ after := by simp
    have hempty : (modifiers ++ base :: gs ++ [Token.word name] ++ after).isEmpty = false := by
      simp
    have hlast := getLast?_memberName?_eq_some_iff.mpr ⟨⟨modifiers ++ base :: gs, rfl⟩, hname⟩
    have hsplit : splitType? (modifiers ++ base :: gs) = some (modifiers, base, gs) :=
      splitType?_eq_some_iff.mpr ⟨rfl, (base_of_ofTokens htype).1, hgs⟩
    rw [hlist, hempty]
    cases hafter with
    | none =>
      have hcut := cutAtWord?_eq_none_iff.mpr hnot
      rw [List.append_nil] at hempty
      simp only [List.append_nil, hcut, hlast, List.dropLast_concat, hsplit, htype]
      rfl
    | equals after =>
      have hcut := cutAtWord?_eq_some_iff.mpr ⟨(rfl : _ ++ .word "=" :: after = _), hnot⟩
      simp only [hcut, hlast, List.dropLast_concat, hsplit, htype]
      rfl

theorem readField_eq_ok_iff {ts : List Token} {d : FieldDecl} :
    readField ts package = .ok d ↔ FieldTokens package ts d :=
  ⟨fieldTokens_of_readField, readField_of_fieldTokens⟩

/-! ## Complete fields -/

/-- A field that reads back on the pages of `package`. -/
structure Field.Complete (package : String) (f : Field) : Prop where
  type : CompleteName package f.type.name
  name : isMemberName f.name = true

/-- The declaration of a field with a value. -/
def Field.toDecl (f : Field) (value : Option String) : FieldDecl :=
  ⟨f.access, f.flags, f.name, f.type, value⟩

namespace ClassifiedField

/-- A field or constant that reads back on the pages of `package`. -/
def Complete (package : String) : ClassifiedField → Prop
  | .field f => f.Complete package
  | .constant c => c.field.Complete package ∧ ∀ v ∈ c.value, IsTokenText v.toList

/-- The declaration the printed field or constant stands for. -/
def toDecl : ClassifiedField → FieldDecl
  | .field f => f.toDecl none
  | .constant c => c.field.toDecl c.value

end ClassifiedField

/-- Classifying goes by flags and type, which the printed form keeps. -/
theorem FieldDecl.classify_toDecl_classify (d : FieldDecl) :
    d.classify.toDecl.classify = d.classify := by
  unfold classify
  cases htype : constantType? d.flags d.type with
  | none => simp [ClassifiedField.toDecl, Field.toDecl, field, htype]
  | some t => simp [ClassifiedField.toDecl, Field.toDecl, field, htype]

theorem FieldDecl.complete_classify {d : FieldDecl} (hf : d.field.Complete package)
    (hv : ∀ v ∈ d.value, IsTokenText v.toList) : d.classify.Complete package := by
  unfold classify
  cases constantType? d.flags d.type with
  | none => exact hf
  | some t => exact ⟨hf, hv⟩

/-- A field read from lexed tokens is complete. -/
theorem complete_of_readField {ts : List Token} {d : FieldDecl} (hp : IsPackage package)
    (hts : ∀ t ∈ ts, t.IsSound) (htexts : ∀ t ∈ ts, IsTokenText t.text.toList)
    (h : readField ts package = .ok d) : d.classify.Complete package := by
  cases readField_eq_ok_iff.mp h with
  | mk _ _ htype hname hafter =>
    refine FieldDecl.complete_classify ⟨?_, hname⟩ ?_
    · exact TypeRef.completeName_of_ofTokens hp (hts _ (by simp)) htype
    · cases hafter with
      | none => simp
      | equals after =>
        intro v hv
        obtain ⟨t, ht, rfl⟩ := Option.map_eq_some_iff.mp hv
        exact htexts t (by simp [List.mem_of_head? ht])

/-! ## The tokens of printed fields -/

def Field.tokens (f : Field) : List Token :=
  tokensOfModifiers f.access f.flags ++ .word f.type.name ::
    (List.replicate f.type.dims (.word "[]") ++ [.word f.name])

theorem Field.spells_print {f : Field} (h : f.Complete package) :
    Spells f.print.toList f.tokens := by
  have hlist : f.print.toList = (printModifiers f.access f.flags).toList ++
      (f.type.print.toList ++ ' ' :: f.name.toList) := by
    simp [Field.print, String.toList_append]
  rw [hlist]
  exact spells_modifiers _ _
    ((TypeRef.spells_print h.type.isTypeName).append_blank (spells_memberName h.name))

/-- A value behind ` = ` is one literal, whatever is in it. -/
theorem tokenize_value {text value : String} {ts : List Token} (h : Spells text.toList ts)
    (hv : IsTokenText value.toList) :
    tokenize (text ++ (" = " ++ value)) = ts ++ [.word "=", .literal value] := by
  have hlist : (text ++ (" = " ++ value)).toList =
      (text.toList ++ [' ']) ++ '=' :: ' ' :: value.toList := by
    simp [String.toList_append]
  have hplain : plainSpaces (' ' :: value.toList) = ' ' :: value.toList := by
    refine plainSpaces_of_forall (List.forall_mem_cons.mpr ⟨by decide, hv.plain⟩)
  have hnot : '=' ∉ text.toList ++ [' '] := by
    intro hc
    rcases List.mem_append.mp hc with hc | hc
    · exact (h.plain _ hc).1 rfl
    · exact absurd hc (by decide)
  have hspace : ∀ c ∈ [' '], Text.isBlank c = true := List.forall_mem_singleton.mpr rfl
  have htrim : Text.trim (' ' :: value.toList) = value.toList := by
    rw [Text.trim_cons rfl, hv.trim_eq]
  have hne : value.toList.isEmpty = false := by simpa using hv.ne_nil
  rw [tokenize, hlist, tokenizeChars_append_equals hnot, hplain, wordTokens_append_of_blank _ hspace,
    h.tokens]
  simp [literalTokens, htrim, hne]

/-! ## Round trip -/

/-- The tokens of a printed field are a field, whatever value stands behind them. -/
theorem Field.fieldTokens_tokens {f : Field} (h : f.Complete package) {after : List Token}
    {value : Option String} (hafter : ValueTokens after value) :
    FieldTokens package (f.tokens ++ after) (f.toDecl value) := by
  have htokens := FieldTokens.mk (not_mem_tokensOfModifiers f.access f.flags (by decide))
    isBrackets_of_mem_replicate (TypeRef.ofTokens_tokens h.type) h.name hafter
  rw [readModifiers_tokens] at htokens
  have hlist : f.tokens ++ after = tokensOfModifiers f.access f.flags ++ .word f.type.name ::
      (List.replicate f.type.dims (.word "[]") ++ .word f.name :: after) := by simp [Field.tokens]
  rw [hlist]
  exact htokens

/-- A complete field or constant is read back from its printed form. -/
theorem ClassifiedField.readField_print {c : ClassifiedField} (h : c.Complete package) :
    readField (tokenize c.print) package = .ok c.toDecl := by
  rw [readField_eq_ok_iff]
  cases c with
  | field f =>
    have htokens := Field.fieldTokens_tokens h .none
    rw [List.append_nil] at htokens
    show FieldTokens package (tokenize f.print) (f.toDecl none)
    rwa [(Field.spells_print h).tokenize_eq]
  | constant c =>
    obtain ⟨field, constantType, value⟩ := c
    obtain ⟨hf, hv⟩ := h
    cases value with
    | none =>
      have htokens := Field.fieldTokens_tokens hf .none
      rw [List.append_nil] at htokens
      show FieldTokens package (tokenize (field.print ++ "")) (field.toDecl none)
      rwa [String.append_empty, (Field.spells_print hf).tokenize_eq]
    | some v =>
      show FieldTokens package (tokenize (field.print ++ (" = " ++ v))) (field.toDecl (some v))
      rw [tokenize_value (Field.spells_print hf) (hv v rfl)]
      exact Field.fieldTokens_tokens hf (.equals [.literal v])

/-- Reading, printing and reading again gives the field or constant of the first reading. -/
theorem printed_fields_read_back {ts : List Token} (hp : IsPackage package) (hl : Lexed ts)
    (hd : ∀ q, .ref q ∈ ts → '.' ∈ q.toList) {d : FieldDecl} (h : readField ts package = .ok d) :
    ∃ d', readField (tokenize d.classify.print) package = .ok d' ∧ d'.classify = d.classify := by
  have hts : ∀ t ∈ ts, t.IsSound := fun t ht => ⟨hl.form t ht, fun q hq => hd q (hq ▸ ht)⟩
  have hcomplete := complete_of_readField hp hts hl.isTokenText h
  exact ⟨_, ClassifiedField.readField_print hcomplete, d.classify_toDecl_classify⟩

/-- A declaration block of a constant with a linked type.  Its literal runs over several nodes, has
marks, another `=` and a non-breaking space in it, and ends in a line break. -/
def separatorBlock : Html.Node :=
  .element "pre" [] [.text "public static final ",
    .element "a" [("href", "../../java/lang/String.html")] [.text "String"],
    .text "\u00A0SEPARATOR = \"a = (b,", .element "b" [] [.text "\u00A0c]"], .text "\"\n"]

def separatorTokens : List Token :=
  [.word "public", .word "static", .word "final", .ref "java.lang.String", .word "SEPARATOR",
    .word "=", .literal "\"a = (b, c]\""]

def separator : FieldDecl :=
  { access := .isPublic, flags := ⟨false, true, true⟩, name := "SEPARATOR"
    type := .ofName "java.lang.String", value := some "\"a = (b, c]\"" }

/-- A field with two dimensions, a bare type and a value. -/
def nodes : FieldDecl :=
  { access := .isPackagePrivate, flags := ⟨false, true, false⟩, name := "nodes"
    type := ⟨"p.q.Node", 2, by decide⟩, value := some "null // none" }

/-- The constant keeps its value, the field is read back without it. -/
theorem printed_fields_read_back_of_separatorBlock :
    IsPackage "p.q" ∧ lexElement "p.q" separatorBlock = .ok separatorTokens ∧
      readField separatorTokens "p.q" = .ok separator ∧
      separator.classify.print =
        "public static final java.lang.String SEPARATOR = \"a = (b, c]\"" ∧
      (∃ d, readField (tokenize separator.classify.print) "p.q" = .ok d ∧
        d.classify = separator.classify) ∧
      readField (tokenize "static Node[] [] nodes = null // none") "p.q" = .ok nodes ∧
      nodes.classify.print = "static p.q.Node[][] nodes" ∧
      ∃ d, readField (tokenize nodes.classify.print) "p.q" = .ok d ∧
        d.classify = nodes.classify := by
  have hp : IsPackage "p.q" := .inr (by decide +kernel)
  have hlex : lexElement "p.q" separatorBlock = .ok separatorTokens := by decide +kernel
  have hdot : ∀ q, .ref q ∈ separatorTokens → '.' ∈ q.toList := by
    intro q hq
    simp only [separatorTokens, List.mem_cons, Token.ref.injEq, reduceCtorEq, List.not_mem_nil,
      false_or, or_false] at hq
    rw [hq]
    decide
  have hseparator : readField separatorTokens "p.q" = .ok separator := by decide +kernel
  have hnodes : readField (tokenize "static Node[] [] nodes = null // none") "p.q" = .ok nodes := by
    decide +kernel
  have hwords : ∀ q, .ref q ∈ tokenize "static Node[] [] nodes = null // none" →
      '.' ∈ q.toList := by
    have htokens : tokenize "static Node[] [] nodes = null // none" =
        [.word "static", .word "Node", .word "[]", .word "[]", .word "nodes", .word "=",
          .literal "null // none"] := by decide +kernel
    simp [htokens]
  exact ⟨hp, hlex, hseparator, by decide +kernel,
    printed_fields_read_back hp (.element hlex) hdot hseparator, hnodes, by decide +kernel,
    printed_fields_read_back hp (.text _) hwords hnodes⟩

end ApiDoc
