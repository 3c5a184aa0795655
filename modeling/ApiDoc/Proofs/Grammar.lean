import ApiDoc.Declaration
import ApiDoc.Proofs.Results

/-!
# The grammar of constructors and methods

One inductive predicate for each part of a declaration: the parameters (`ArgumentTokens`), the
`throws` clause (`ThrowsTokens`), what stands behind the opening parenthesis (`ParameterTokens`), and
the declarations themselves (`ConstructorTokens`, `MethodTokens`).  Each reader accepts exactly the
tokens of its predicate, with the result the predicate names.
-/

namespace ApiDoc

variable {package decl : String}

/-! ## Cutting -/

theorem Token.isWord_iff {t : Token} {w : String} : t.isWord w = true ↔ t = .word w := by
  simp [Token.isWord]

/-- The cut is made at the first of the words. -/
theorem cutAtWord?_eq_some_iff {w : String} {ts a b : List Token} :
    cutAtWord? w ts = some (a, b) ↔ ts = a ++ .word w :: b ∧ .word w ∉ a := by
  induction ts generalizing a with
  | nil => simp [cutAtWord?]
  | cons t r ih =>
    rw [cutAtWord?]
    by_cases ht : t = .word w
    · rw [if_pos (Token.isWord_iff.mpr ht)]
      subst ht
      constructor
      · intro h
        cases h
        exact ⟨rfl, List.not_mem_nil⟩
      · rintro ⟨h, hw⟩
        cases a with
        | nil =>
          cases h
          rfl
        | cons x a =>
          cases h
          exact absurd List.mem_cons_self hw
    · rw [if_neg (mt Token.isWord_iff.mp ht)]
      constructor
      · intro h
        obtain ⟨⟨front, back⟩, hcut, he⟩ := Option.map_eq_some_iff.mp h
        cases he
        obtain ⟨rfl, hw⟩ := ih.mp hcut
        refine ⟨rfl, ?_⟩
        rintro (_ | ⟨_, hmem⟩)
        · exact ht rfl
        · exact hw hmem
      · rintro ⟨h, hw⟩
        cases a with
        | nil =>
          cases h
          exact absurd rfl ht
        | cons x a =>
          cases h
          rw [ih.mpr ⟨rfl, fun hmem => hw (List.mem_cons_of_mem _ hmem)⟩]
          rfl

theorem cutAtWord?_eq_none_iff {w : String} {ts : List Token} :
    cutAtWord? w ts = none ↔ .word w ∉ ts := by
  constructor
  · intro h hmem
    obtain ⟨a, b, hts, ha⟩ := List.eq_append_cons_of_mem hmem
    rw [cutAtWord?_eq_some_iff.mpr ⟨hts, ha⟩] at h
    cases h
  · intro h
    cases hcut : cutAtWord? w ts with
    | none => rfl
    | some p =>
      obtain ⟨hts, -⟩ := cutAtWord?_eq_some_iff.mp hcut
      exact absurd (hts ▸ by simp) h

theorem takeWhile_isBrackets {gs : List Token} (hgs : ∀ g ∈ gs, g.isBrackets = true) {t : Token}
    (ht : t.isBrackets = false) (r : List Token) :
    (gs ++ t :: r).takeWhile (·.isBrackets) = gs :=
  Text.takeWhile_append_of_head hgs (by rintro _ ⟨⟩; exact ht)

theorem dropWhile_isBrackets {gs : List Token} (hgs : ∀ g ∈ gs, g.isBrackets = true) {t : Token}
    (ht : t.isBrackets = false) (r : List Token) :
    (gs ++ t :: r).dropWhile (·.isBrackets) = t :: r := by
  rw [List.dropWhile_append_of_pos hgs, List.dropWhile_cons_of_neg (by simp [ht])]

/-- The base token is the last that is no bracket group. -/
theorem splitType?_eq_some_iff {ts before gs : List Token} {base : Token} :
    splitType? ts = some (before, base, gs) ↔
      ts = before ++ base :: gs ∧ base.isBrackets = false ∧ ∀ g ∈ gs, g.isBrackets = true := by
  unfold splitType?
  constructor
  · intro h
    have hall := List.takeWhile_append_dropWhile (p := (·.isBrackets)) (l := ts.reverse)
    have hfirst := List.head?_dropWhile_not (·.isBrackets) ts.reverse
    have hgroups := List.all_takeWhile (p := (·.isBrackets)) (l := ts.reverse)
    cases hd : ts.reverse.dropWhile (·.isBrackets) with
    | nil =>
      simp only [hd] at h
      cases h
    | cons x r =>
      simp only [hd] at h hfirst
      cases h
      rw [hd] at hall
      have hts := congrArg List.reverse hall
      rw [List.reverse_reverse, List.reverse_append, List.reverse_cons, List.append_assoc] at hts
      refine ⟨hts.symm, hfirst, fun g hg => ?_⟩
      exact List.all_eq_true.mp hgroups g (List.mem_reverse.mp hg)
  · rintro ⟨rfl, hbase, hgs⟩
    have hrev : ∀ g ∈ gs.reverse, g.isBrackets = true := fun g hg => hgs g (List.mem_reverse.mp hg)
    have hlist : (before ++ base :: gs).reverse = gs.reverse ++ base :: before.reverse := by simp
    rw [hlist, takeWhile_isBrackets hrev hbase, dropWhile_isBrackets hrev hbase]
    simp

/-- The base token of a type is neither a bracket group nor a mark. -/
theorem base_of_ofTokens {base : Token} {gs : List Token} {t : TypeRef}
    (h : TypeRef.ofTokens package base gs = .ok t) :
    base.isBrackets = false ∧ base ≠ .word "(" ∧ base ≠ .word ")" := by
  cases base with
  | word w =>
    simp only [TypeRef.ofTokens, TypeRef.ofToken] at h
    split at h
    · next hu =>
      split at hu
      · cases hu
      · next hw =>
        simp only [Bool.or_eq_true, not_or, Bool.not_eq_true, beq_eq_false_iff_ne] at hw
        obtain ⟨⟨⟨⟨-, hopen⟩, hclose⟩, hb⟩, -⟩ := hw
        exact ⟨hb, fun e => hopen (Token.word.inj e), fun e => hclose (Token.word.inj e)⟩
    · cases h
  | ref q => exact ⟨rfl, by simp, by simp⟩
  | literal v => exact ⟨rfl, by simp, by simp⟩

/-! ## Names -/

theorem Token.memberName?_eq_some_iff {t : Token} {name : String} :
    t.memberName? = some name ↔ t = .word name ∧ isMemberName name = true := by
  cases t with
  | word w =>
    simp only [Token.memberName?, Token.word.injEq]
    by_cases hw : isMemberName w = true
    · rw [if_pos hw, Option.some.injEq]
      constructor
      · rintro rfl
        exact ⟨rfl, hw⟩
      · rintro ⟨rfl, -⟩
        rfl
    · rw [if_neg hw]
      constructor
      · intro h
        cases h
      · rintro ⟨rfl, h⟩
        exact absurd h hw
  | ref q => simp [Token.memberName?]
  | literal v => simp [Token.memberName?]

/-- A member name is of name characters. -/
theorem not_mem_of_isMemberName {name : String} (h : isMemberName name = true) {c : Char}
    (hc : Text.isNameChar c = false) : c ∉ name.toList := by
  simp only [isMemberName, Bool.and_eq_true, List.all_eq_true] at h
  intro hmem
  rw [h.2 c hmem] at hc
  cases hc

theorem not_isBrackets_of_isMemberName {name : String} (h : isMemberName name = true) :
    (Token.word name).isBrackets = false := by
  simp only [Token.isBrackets, beq_eq_false_iff_ne]
  exact fun hhead => not_mem_of_isMemberName h (by decide +kernel) (List.mem_of_head? hhead)

theorem ne_of_isMemberName {name mark : String} (h : isMemberName name = true)
    (hm : isMemberName mark = false) : Token.word mark ≠ .word name := by
  intro e
  cases e
  rw [h] at hm
  cases hm

/-- The last token gives the name. -/
theorem getLast?_memberName?_eq_some_iff {ts : List Token} {name : String} :
    ts.getLast?.bind Token.memberName? = some name ↔
      (∃ front, ts = front ++ [.word name]) ∧ isMemberName name = true := by
  rw [Option.bind_eq_some_iff]
  simp only [Token.memberName?_eq_some_iff, List.getLast?_eq_some_iff]
  constructor
  · rintro ⟨t, hfront, rfl, hmember⟩
    exact ⟨hfront, hmember⟩
  · rintro ⟨hfront, hmember⟩
    exact ⟨_, hfront, rfl, hmember⟩

/-- The name stands in front of the first opening parenthesis. -/
theorem splitName_eq_ok_iff {ts before after : List Token} {name : String} :
    splitName ts = .ok (before, name, after) ↔
      ts = before ++ .word name :: .word "(" :: after ∧ .word "(" ∉ before ∧
        isMemberName name = true := by
  have hparen : isMemberName "(" = false := by decide +kernel
  unfold splitName
  constructor
  · intro h
    split at h
    · cases h
    · split at h
      · cases h
      · next front back hcut =>
        obtain ⟨rfl, hfront⟩ := cutAtWord?_eq_some_iff.mp hcut
        split at h
        · cases h
        · next word hword =>
          cases h
          obtain ⟨⟨front, rfl⟩, hmember⟩ := getLast?_memberName?_eq_some_iff.mp hword
          rw [List.dropLast_concat]
          refine ⟨by simp, fun hmem => ?_, hmember⟩
          exact hfront (List.mem_append_left _ hmem)
  · rintro ⟨rfl, hbefore, hmember⟩
    have hlist : before ++ .word name :: .word "(" :: after =
        (before ++ [.word name]) ++ .word "(" :: after := by simp
    have hfront : .word "(" ∉ before ++ [.word name] := by
      intro hmem
      rcases List.mem_append.mp hmem with hmem | hmem
      · exact hbefore hmem
      · exact ne_of_isMemberName hmember hparen (List.mem_singleton.mp hmem)
    have hcut := cutAtWord?_eq_some_iff.mpr ⟨hlist, hfront⟩
    have hempty : (before ++ Token.word name :: .word "(" :: after).isEmpty = false := by simp
    have hlast := getLast?_memberName?_eq_some_iff.mpr ⟨⟨before, rfl⟩, hmember⟩
    simp only [hempty, hcut, hlast, List.dropLast_concat]
    rfl

/-! ## Parameters -/

/-- A list of parameters, each a type and a name, with commas between them; a comma may stand at the
end. -/
inductive ArgumentTokens (package : String) : List Token → List Argument → Prop
  | nil : ArgumentTokens package [] []
  | last {base : Token} {gs : List Token} {type : TypeRef} {name : String}
    (hgs : ∀ g ∈ gs, g.isBrackets = true) (htype : TypeRef.ofTokens package base gs = .ok type)
    (hname : isMemberName name = true) :
    ArgumentTokens package (base :: (gs ++ [.word name])) [⟨type, name⟩]
  | cons {base : Token} {gs r : List Token} {type : TypeRef} {name : String}
    {arguments : List Argument} (hgs : ∀ g ∈ gs, g.isBrackets = true)
    (htype : TypeRef.ofTokens package base gs = .ok type) (hname : isMemberName name = true)
    (hr : ArgumentTokens package r arguments) :
    ArgumentTokens package (base :: (gs ++ .word name :: .word "," :: r)) (⟨type, name⟩ :: arguments)

theorem argumentTokens_of_readArguments {ts : List Token} {arguments : List Argument}
    (h : readArguments package decl ts = .ok arguments) : ArgumentTokens package ts arguments := by
  induction ts using readArguments.induct generalizing arguments with
  | case1 =>
    rw [readArguments] at h
    cases h
    exact .nil
  | case2 base rest ih =>
    rw [readArguments] at h
    obtain ⟨type, htype, h⟩ := Except.bind_eq_ok_iff.mp h
    have hrest := List.takeWhile_append_dropWhile (p := (·.isBrackets)) (l := rest)
    have hgs : ∀ g ∈ rest.takeWhile (·.isBrackets), g.isBrackets = true :=
      List.all_eq_true.mp List.all_takeWhile
    split at h
    · cases h
    · next t hd =>
      split at h
      · cases h
      · next name hname =>
        cases h
        obtain ⟨rfl, hmember⟩ := Token.memberName?_eq_some_iff.mp hname
        rw [← hrest, hd]
        exact .last hgs htype hmember
    · next t comma more hd =>
      split at h
      · cases h
      · next name hname =>
        split at h
        · next hcomma =>
          obtain ⟨others, hothers, h⟩ := Except.bind_eq_ok_iff.mp h
          cases h
          obtain ⟨rfl, hmember⟩ := Token.memberName?_eq_some_iff.mp hname
          rw [← hrest, hd, Token.isWord_iff.mp hcomma]
          exact .cons hgs htype hmember (ih _ comma more hd hothers)
        · cases h

/-- A parameter is read and what stands behind its name decides how to go on. -/
theorem readArguments_parameter {base : Token} {gs : List Token} {type : TypeRef} {name : String}
    (hgs : ∀ g ∈ gs, g.isBrackets = true) (htype : TypeRef.ofTokens package base gs = .ok type)
    (hname : isMemberName name = true) (r : List Token) :
    readArguments package decl (base :: (gs ++ .word name :: r)) =
      match r with
      | [] => .ok [⟨type, name⟩]
      | comma :: more =>
        if comma.isWord "," then (readArguments package decl more).map (⟨type, name⟩ :: ·)
        else .error (.missingToken "," decl) := by
  have hstop := not_isBrackets_of_isMemberName hname
  have hword := Token.memberName?_eq_some_iff.mpr ⟨rfl, hname⟩
  rw [readArguments, takeWhile_isBrackets hgs hstop, htype]
  simp only [bind, Except.bind]
  split
  · next hd => simp [dropWhile_isBrackets hgs hstop] at hd
  · next t hd =>
    rw [dropWhile_isBrackets hgs hstop] at hd
    cases hd
    rw [hword]
    rfl
  · next t comma more hd =>
    rw [dropWhile_isBrackets hgs hstop] at hd
    cases hd
    rw [hword]
    rfl

theorem readArguments_of_argumentTokens {ts : List Token} {arguments : List Argument}
    (h : ArgumentTokens package ts arguments) : readArguments package decl ts = .ok arguments := by
  induction h with
  | nil => rw [readArguments]
  | last hgs htype hname => rw [readArguments_parameter hgs htype hname]
  | cons hgs htype hname _ ih =>
    rw [readArguments_parameter hgs htype hname]
    dsimp only
    rw [if_pos (Token.isWord_iff.mpr rfl), ih]
    rfl

theorem readArguments_eq_ok_iff {ts : List Token} {arguments : List Argument} :
    readArguments package decl ts = .ok arguments ↔ ArgumentTokens package ts arguments :=
  ⟨argumentTokens_of_readArguments, readArguments_of_argumentTokens⟩

/-- No parameter list has a closing parenthesis in it. -/
theorem not_mem_of_argumentTokens {ts : List Token} {arguments : List Argument}
    (h : ArgumentTokens package ts arguments) : .word ")" ∉ ts := by
  have hparen : isMemberName ")" = false := by decide +kernel
  -- the base token, the bracket groups and the name in front of any rest
  have hparameter : ∀ {base : Token} {gs r : List Token} {type : TypeRef} {name : String},
      (∀ g ∈ gs, g.isBrackets = true) → TypeRef.ofTokens package base gs = .ok type →
      isMemberName name = true → .word ")" ∉ r → .word ")" ∉ base :: (gs ++ .word name :: r) := by
    intro base gs r type name hgs htype hname hr hmem
    rcases List.mem_cons.mp hmem with hmem | hmem
    · exact (base_of_ofTokens htype).2.2 hmem.symm
    rcases List.mem_append.mp hmem with hmem | hmem
    · exact absurd (hgs _ hmem) (by decide)
    rcases List.mem_cons.mp hmem with hmem | hmem
    · exact ne_of_isMemberName hname hparen hmem
    · exact hr hmem
  induction h with
  | nil => exact List.not_mem_nil
  | last hgs htype hname => exact hparameter hgs htype hname List.not_mem_nil
  | cons hgs htype hname _ ih => exact hparameter hgs htype hname (by simpa using ih)

/-- What stands behind the parameters: types behind `throws`, with commas anywhere between them, or
anything else. -/
inductive ThrowsTokens (package : String) : List Token → List TypeRef → Prop
  | other {ts : List Token} (h : ts.head? ≠ some (.word "throws")) : ThrowsTokens package ts []
  | clause {ts : List Token} {throws : List TypeRef}
    (h : List.Forall₂ (fun t type => TypeRef.ofTokens package t [] = .ok type)
      (ts.filter fun t => !t.isWord ",") throws) :
    ThrowsTokens package (.word "throws" :: ts) throws

theorem readThrows_eq_ok_iff {ts : List Token} {throws : List TypeRef} :
    readThrows package ts = .ok throws ↔ ThrowsTokens package ts throws := by
  cases ts with
  | nil =>
    constructor
    · intro h
      cases h
      exact .other (by simp)
    · intro h
      cases h
      rfl
  | cons t r =>
    rw [readThrows]
    by_cases ht : t = .word "throws"
    · subst ht
      rw [if_pos (Token.isWord_iff.mpr rfl), mapM_eq_ok_iff]
      constructor
      · exact .clause
      · intro h
        cases h with
        | other h => exact absurd rfl h
        | clause h => exact h
    · rw [if_neg (mt Token.isWord_iff.mp ht)]
      constructor
      · intro h
        cases h
        exact .other (by simpa using ht)
      · intro h
        cases h with
        | other _ => rfl
        | clause _ => exact absurd rfl ht

/-- What stands behind the opening parenthesis. -/
inductive ParameterTokens (package : String) :
    List Token → List Argument → List TypeRef → Prop
  | mk {inside after : List Token} {arguments : List Argument} {throws : List TypeRef}
    (hinside : .word ")" ∉ inside) (harguments : ArgumentTokens package inside arguments)
    (hthrows : ThrowsTokens package after throws) :
    ParameterTokens package (inside ++ .word ")" :: after) arguments throws

theorem readParameters_eq_ok_iff {ts : List Token} {arguments : List Argument}
    {throws : List TypeRef} :
    readParameters package decl ts = .ok (arguments, throws) ↔
      ParameterTokens package ts arguments throws := by
  unfold readParameters
  constructor
  · intro h
    split at h
    · cases h
    · next inside after hcut =>
      obtain ⟨rfl, hinside⟩ := cutAtWord?_eq_some_iff.mp hcut
      obtain ⟨as, ha, h⟩ := Except.bind_eq_ok_iff.mp h
      obtain ⟨types, ht, h⟩ := Except.bind_eq_ok_iff.mp h
      cases h
      exact .mk hinside (readArguments_eq_ok_iff.mp ha) (readThrows_eq_ok_iff.mp ht)
  · rintro ⟨hinside, ha, ht⟩
    simp only [cutAtWord?_eq_some_iff.mpr ⟨rfl, hinside⟩, readArguments_eq_ok_iff.mpr ha,
      readThrows_eq_ok_iff.mpr ht]
    rfl

/-! ## Constructors and methods -/

/-- A constructor: modifiers, any name, parameters. -/
inductive ConstructorTokens (package : String) : List Token → ConstructorDecl → Prop
  | mk {modifiers after : List Token} {name : String} {arguments : List Argument}
    {throws : List TypeRef} (hmodifiers : .word "(" ∉ modifiers)
    (hname : isMemberName name = true) (hafter : ParameterTokens package after arguments throws) :
    ConstructorTokens package (modifiers ++ .word name :: .word "(" :: after)
      ⟨(readModifiers modifiers).1, arguments, throws⟩

theorem readConstructor_eq_ok_iff {ts : List Token} {d : ConstructorDecl} :
    readConstructor ts package = .ok d ↔ ConstructorTokens package ts d := by
  unfold readConstructor
  constructor
  · intro h
    obtain ⟨⟨modifiers, name, after⟩, hsplit, h⟩ := Except.bind_eq_ok_iff.mp h
    obtain ⟨⟨arguments, throws⟩, hparameters, h⟩ := Except.bind_eq_ok_iff.mp h
    cases h
    obtain ⟨rfl, hmodifiers, hname⟩ := splitName_eq_ok_iff.mp hsplit
    exact .mk hmodifiers hname (readParameters_eq_ok_iff.mp hparameters)
  · rintro ⟨hmodifiers, hname, hafter⟩
    rw [splitName_eq_ok_iff.mpr ⟨rfl, hmodifiers, hname⟩]
    simp only [bind, Except.bind, readParameters_eq_ok_iff.mpr hafter]
    rfl

/-- A method: modifiers, the type it returns, its name, parameters. -/
inductive MethodTokens (package : String) : List Token → MethodDecl → Prop
  | mk {modifiers gs after : List Token} {base : Token} {name : String} {returnType : TypeRef}
    {arguments : List Argument} {throws : List TypeRef} (hmodifiers : .word "(" ∉ modifiers)
    (hgs : ∀ g ∈ gs, g.isBrackets = true)
    (htype : TypeRef.ofTokens package base gs = .ok returnType)
    (hname : isMemberName name = true) (hafter : ParameterTokens package after arguments throws) :
    MethodTokens package (modifiers ++ base :: (gs ++ .word name :: .word "(" :: after))
      ⟨(readModifiers modifiers).1, (readModifiers modifiers).2, name, returnType, arguments, throws⟩

theorem readMethod_eq_ok_iff {ts : List Token} {d : MethodDecl} :
    readMethod ts package = .ok d ↔ MethodTokens package ts d := by
  unfold readMethod
  constructor
  · intro h
    obtain ⟨⟨before, name, after⟩, hsplit, h⟩ := Except.bind_eq_ok_iff.mp h
    obtain ⟨rfl, hbefore, hname⟩ := splitName_eq_ok_iff.mp hsplit
    dsimp only at h
    split at h
    · cases h
    · next modifiers base gs htypes =>
      obtain ⟨rfl, hbase, hgs⟩ := splitType?_eq_some_iff.mp htypes
      obtain ⟨returnType, htype, h⟩ := Except.bind_eq_ok_iff.mp h
      obtain ⟨⟨arguments, throws⟩, hparameters, h⟩ := Except.bind_eq_ok_iff.mp h
      cases h
      rw [List.append_assoc, List.cons_append]
      refine .mk ?_ hgs htype hname (readParameters_eq_ok_iff.mp hparameters)
      exact fun hmem => hbefore (List.mem_append_left _ hmem)
  · intro h
    cases h with
    | @mk modifiers gs after base name returnType arguments throws hmodifiers hgs htype hname hafter =>
      obtain ⟨hbase, hne, -⟩ := base_of_ofTokens htype
      have hlist : modifiers ++ base :: (gs ++ .word name :: .word "(" :: after) =
          (modifiers ++ base :: gs) ++ .word name :: .word "(" :: after := by simp
      have hbefore : .word "(" ∉ modifiers ++ base :: gs := by
        intro hmem
        rcases List.mem_append.mp hmem with hmem | hmem
        · exact hmodifiers hmem
        rcases List.mem_cons.mp hmem with hmem | hmem
        · exact hne hmem.symm
        · exact absurd (hgs _ hmem) (by decide)
      rw [splitName_eq_ok_iff.mpr ⟨hlist, hbefore, hname⟩]
      simp only [bind, Except.bind, splitType?_eq_some_iff.mpr ⟨rfl, hbase, hgs⟩, htype,
        readParameters_eq_ok_iff.mpr hafter]
      rfl

end ApiDoc
