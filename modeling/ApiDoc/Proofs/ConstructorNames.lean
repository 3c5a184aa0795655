import ApiDoc.Proofs.RoundTrip

/-!
# The name of a constructor

A constructor is declared under the simple name of its class, and the name only ends the modifiers:
the reader gives access, parameters and exceptions whatever the name is
(`readConstructor_className`).  The simple name of a nested class has dots, and under such a name no
constructor is read, neither from tokens nor from its printed form (`constructors_read_under_names`).
-/

namespace ApiDoc

variable {package : String}

/-! ## Names of classes -/

/-- The simple name of a class: member names with dots between them, more than one for a nested
class. -/
def IsClassName (name : String) : Prop :=
  ∃ parts, parts ≠ [] ∧ (∀ p ∈ parts, isMemberName p = true) ∧ name = ".".intercalate parts

namespace IsClassName

variable {name : String}

theorem dot_or_isNameChar (h : IsClassName name) :
    ∀ c ∈ name.toList, c = '.' ∨ Text.isNameChar c = true := by
  obtain ⟨parts, -, hparts, rfl⟩ := h
  intro c hc
  rw [String.toList_intercalate] at hc
  rcases mem_intercalate hc with hc | ⟨_, hpart, hc⟩
  · exact .inl hc
  · obtain ⟨p, hp, rfl⟩ := List.mem_map.mp hpart
    by_contra hother
    rw [not_or, Bool.not_eq_true] at hother
    exact not_mem_of_isMemberName (hparts p hp) hother.2 hc

/-- Only the name of a nested class is no member name. -/
theorem isMemberName_iff (h : IsClassName name) : isMemberName name = true ↔ '.' ∉ name.toList := by
  have hdot : Text.isNameChar '.' = false := by decide +kernel
  refine ⟨fun hname => not_mem_of_isMemberName hname hdot, fun hnot => ?_⟩
  obtain ⟨parts, hne, hparts, rfl⟩ := h
  match parts with
  | [] => exact absurd rfl hne
  | [p] => exact hparts p List.mem_cons_self
  | p :: q :: r =>
    refine absurd ?_ hnot
    rw [String.toList_intercalate, List.map_cons, List.map_cons, List.intercalate_cons_cons]
    simp

theorem ne_mark (h : IsClassName name) {mark : String} (hdot : '.' ∉ mark.toList)
    (hmark : isMemberName mark = false) : mark ≠ name := by
  rintro rfl
  rw [h.isMemberName_iff.mpr hdot] at hmark
  cases hmark

/-- The name of a class is one token. -/
theorem spells (h : IsClassName name) : Spells name.toList [.word name] := by
  have hempty : isMemberName "" = false := by decide
  refine .word (h.ne_mark (by decide) hempty).symm fun c hc => ?_
  exact TypeRef.isPlain_of_dot_or_isNameChar (h.dot_or_isNameChar c hc)

end IsClassName

/-! ## Reading under a name -/

/-- The tokens with another name in front of the first opening parenthesis. -/
def withName (name : String) (ts : List Token) : List Token :=
  match cutAtWord? "(" ts with
  | some (before, after) => before.dropLast ++ .word name :: .word "(" :: after
  | none => ts

theorem cutAtWord?_name {modifiers after : List Token} {name : String}
    (hmodifiers : .word "(" ∉ modifiers) (hname : Token.word "(" ≠ .word name) :
    cutAtWord? "(" (modifiers ++ .word name :: .word "(" :: after) =
      some (modifiers ++ [.word name], after) := by
  rw [cutAtWord?_eq_some_iff]
  refine ⟨by simp, ?_⟩
  rw [List.mem_append, List.mem_singleton, not_or]
  exact ⟨hmodifiers, hname⟩

theorem withName_eq {modifiers after : List Token} {old name : String}
    (hmodifiers : .word "(" ∉ modifiers) (hold : Token.word "(" ≠ .word old) :
    withName name (modifiers ++ .word old :: .word "(" :: after) =
      modifiers ++ .word name :: .word "(" :: after := by
  simp only [withName, cutAtWord?_name hmodifiers hold, List.dropLast_concat]

/-- A declaration is refused where no member name stands in front of the first opening
parenthesis. -/
theorem readConstructor_of_not_isMemberName {modifiers after : List Token} {name : String}
    (hmodifiers : .word "(" ∉ modifiers) (hopen : Token.word "(" ≠ .word name)
    (hname : isMemberName name = false) :
    readConstructor (modifiers ++ .word name :: .word "(" :: after) package =
      .error (.missingName (Token.render (modifiers ++ .word name :: .word "(" :: after))) := by
  have hempty : (modifiers ++ Token.word name :: .word "(" :: after).isEmpty = false := by simp
  have hlast : (modifiers ++ [Token.word name]).getLast?.bind Token.memberName? = none := by
    simp [Token.memberName?, hname]
  unfold readConstructor splitName
  simp only [hempty, cutAtWord?_name hmodifiers hopen, hlast]
  rfl

/-- What is read under the name of a class: the same constructor for every name without dots, and
none for the name of a nested class. -/
theorem readConstructor_className {modifiers after : List Token} {name : String}
    {arguments : List Argument} {throws : List TypeRef} (hname : IsClassName name)
    (hmodifiers : .word "(" ∉ modifiers) (hafter : ParameterTokens package after arguments throws) :
    readConstructor (modifiers ++ .word name :: .word "(" :: after) package =
      if '.' ∈ name.toList then
        .error (.missingName (Token.render (modifiers ++ .word name :: .word "(" :: after)))
      else .ok ⟨(readModifiers modifiers).1, arguments, throws⟩ := by
  have hparen : isMemberName "(" = false := by decide +kernel
  split
  · next hdot =>
    have hopen : Token.word "(" ≠ .word name := fun e =>
      hname.ne_mark (by decide) hparen (Token.word.inj e)
    have hnot : isMemberName name = false := by
      rw [← Bool.not_eq_true, hname.isMemberName_iff]
      exact not_not_intro hdot
    exact readConstructor_of_not_isMemberName hmodifiers hopen hnot
  · next hdot =>
    exact readConstructor_eq_ok_iff.mpr (.mk hmodifiers (hname.isMemberName_iff.mpr hdot) hafter)

/-! ## Every name -/

/-- The name in front of the parameters of a constructor says nothing: under any simple name without
dots the same constructor is read, from the tokens and from the printed form.  Under the name of a
nested class it is refused, as if there were no name. -/
theorem constructors_read_under_names {ts : List Token} {d : ConstructorDecl} {name : String}
    (h : readConstructor ts package = .ok d) (hname : IsClassName name) :
    readConstructor (withName name ts) package =
        (if '.' ∈ name.toList then .error (.missingName (Token.render (withName name ts)))
        else .ok d) ∧
      (IsPackage package → Lexed ts → (∀ q, .ref q ∈ ts → '.' ∈ q.toList) →
        ∃ d', d'.toConstructor = d.toConstructor ∧
          readConstructor (tokenize (d.toConstructor.print name)) package =
            if '.' ∈ name.toList then
              .error (.missingName (Token.render (tokenize (d.toConstructor.print name))))
            else .ok d') := by
  constructor
  · cases readConstructor_eq_ok_iff.mp h with
    | @mk modifiers after old arguments throws hmodifiers hold hafter =>
      have hparen : isMemberName "(" = false := by decide +kernel
      rw [withName_eq hmodifiers (ne_of_isMemberName hold hparen)]
      exact readConstructor_className hname hmodifiers hafter
  · intro hp hl hd
    have hts : ∀ t ∈ ts, t.IsSound := fun t ht => ⟨hl.form t ht, fun q hq => hd q (hq ▸ ht)⟩
    have hcomplete := complete_of_readConstructor hp hts h
    refine ⟨d.toConstructor.toDecl, Constructor.toConstructor_toDecl _, ?_⟩
    rw [(Constructor.spells_print hcomplete hname.spells).tokenize_eq]
    have hread := readConstructor_className hname
      (not_mem_tokensOfModifiers d.toConstructor.access .none (by decide))
      (parameterTokens_tokens hcomplete)
    rwa [readModifiers_tokens] at hread

def entryBlock : Html.Node :=
  .element "pre" [] [.text "public Entry(Key", .element "b" [] [.text " key"], .text ")"]

def entryTokens : List Token :=
  [.word "public", .word "Entry", .word "(", .word "Key", .word "key", .word ")"]

def entryDecl : ConstructorDecl := ⟨.isPublic, [⟨.ofName "p.Key", "key"⟩], []⟩

/-- A constructor under another name, and under the name of a nested class. -/
theorem constructors_read_under_names_of_entryBlock :
    lexElement "p" entryBlock = .ok entryTokens ∧ readConstructor entryTokens "p" = .ok entryDecl ∧
      IsClassName "Node" ∧ readConstructor (withName "Node" entryTokens) "p" = .ok entryDecl ∧
      (∃ d, d.toConstructor = entryDecl.toConstructor ∧
        readConstructor (tokenize (entryDecl.toConstructor.print "Node")) "p" = .ok d) ∧
      IsClassName "Map.Entry" ∧
      readConstructor (tokenize (entryDecl.toConstructor.print "Map.Entry")) "p" =
        .error (.missingName "public Map.Entry ( p.Key key )") := by
  have hp : IsPackage "p" := .inr (by decide +kernel)
  have hlex : lexElement "p" entryBlock = .ok entryTokens := by decide +kernel
  have href : ∀ q, .ref q ∈ entryTokens → '.' ∈ q.toList := by simp [entryTokens]
  have hread : readConstructor entryTokens "p" = .ok entryDecl := by decide +kernel
  have hnode : IsClassName "Node" := ⟨["Node"], by simp, by decide +kernel, by decide⟩
  have hentry : IsClassName "Map.Entry" := ⟨["Map", "Entry"], by simp, by decide +kernel, by decide⟩
  obtain ⟨hnamed, hprinted⟩ := constructors_read_under_names hread hnode
  obtain ⟨d, hd, hback⟩ := hprinted hp (.element hlex) href
  obtain ⟨-, hnested⟩ := constructors_read_under_names hread hentry
  obtain ⟨_, -, hrefused⟩ := hnested hp (.element hlex) href
  rw [if_neg (by decide)] at hnamed hback
  rw [if_pos (by decide)] at hrefused
  refine ⟨hlex, hread, hnode, hnamed, ⟨d, hd, hback⟩, hentry, ?_⟩
  rw [hrefused]
  decide +kernel

/-- The constructor of a nested class is refused under the name a heading gives the class, while the
last part of the name alone is accepted. -/
theorem readConstructor_nestedName :
    readConstructor (tokenize "public Entry(int a)") "p" =
        .ok ⟨.isPublic, [⟨.ofName "int", "a"⟩], []⟩ ∧
      IsClassName "Map.Entry" ∧
      withName "Map.Entry" (tokenize "public Entry(int a)") = tokenize "public Map.Entry(int a)" ∧
      readConstructor (tokenize "public Map.Entry(int a)") "p" =
        .error (.missingName "public Map.Entry ( int a )") :=
  ⟨by decide +kernel, ⟨["Map", "Entry"], by simp, by decide +kernel, by decide⟩, by decide +kernel,
    by decide +kernel⟩

end ApiDoc
