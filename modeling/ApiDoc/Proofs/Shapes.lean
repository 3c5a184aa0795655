import ApiDoc.Proofs.Grammar
import Mathlib

/-!
# The shape of method and constructor declarations

What a method or constructor declaration looks like, said without its readers: tokens in front of the
first `(`, tokens up to the first `)` behind it, and the rest.  Types, modifiers, parameters and
exceptions each have a description of their own, and each reader succeeds exactly on the tokens of
its description, with the result described:

    TypeRef.ofTokens package base brackets = .ok type ↔ LegalType package base brackets type
    readModifiers ts = (access, flags) ↔ Modified ts access flags
    readMethod ts package = .ok d ↔ MethodShape package ts d          (readers_accept_shapes)
    readConstructor ts package = .ok d ↔ ConstructorShape package ts d
-/

namespace ApiDoc

variable {package : String}

/-! ## Types -/

/-- What the base token of a type names on a page of `package`.  A word that is neither a mark, a
bracket group nor reserved names a type, in the package of the page unless the name is complete; a
link names its target. -/
inductive BaseType (package : String) : Token → TypeRef → Prop
  | complete {w : String} {t : TypeRef} (hmark : w ∉ [",", "(", ")"])
    (hbrackets : (Token.word w).isBrackets = false) (hreserved : w ∉ reservedWords)
    (hread : TypeRef.parse? w = some t)
    (hcomplete : package = "" ∨ t.name ∈ TypeRef.primitives ∨ '.' ∈ t.name.toList) :
    BaseType package (.word w) t
  | bare {w : String} {t : TypeRef} (hmark : w ∉ [",", "(", ")"])
    (hbrackets : (Token.word w).isBrackets = false) (hreserved : w ∉ reservedWords)
    (hread : TypeRef.parse? w = some t)
    (hbare : ¬(package = "" ∨ t.name ∈ TypeRef.primitives ∨ '.' ∈ t.name.toList)) :
    BaseType package (.word w) { t with name := package ++ "." ++ t.name }
  | link {q : String} {t : TypeRef} (hread : TypeRef.parse? q = some t) : BaseType package (.ref q) t

/-- A text of so many pairs of brackets. -/
def IsPairs (g : Token) (n : Nat) : Prop := g.text.toList = (List.replicate n ['[', ']']).flatten

/-- A base token with bracket groups behind it is a type: each pair of brackets adds a dimension,
and no type has more than 255. -/
def LegalType (package : String) (base : Token) (brackets : List Token) (type : TypeRef) : Prop :=
  ∃ t counts, BaseType package base t ∧ List.Forall₂ IsPairs brackets counts ∧
    type.name = t.name ∧ type.dims = t.dims + counts.sum

namespace TypeRef

theorem qualify_eq_ok_iff {w : String} {type : TypeRef} :
    qualify package w = .ok type ↔ ∃ t, parse? w = some t ∧
      ((package = "" ∨ t.name ∈ primitives ∨ '.' ∈ t.name.toList) ∧ type = t ∨
        ¬(package = "" ∨ t.name ∈ primitives ∨ '.' ∈ t.name.toList) ∧
          type = { t with name := package ++ "." ++ t.name }) := by
  unfold qualify
  cases hread : parse? w with
  | none => simp
  | some t =>
    have hcomplete : (package.isEmpty || isPrimitiveName t.name || t.name.toList.contains '.') =
        true ↔ package = "" ∨ t.name ∈ primitives ∨ '.' ∈ t.name.toList := by
      simp [isPrimitiveName, or_assoc]
    simp only [Option.some.injEq, exists_eq_left']
    by_cases h : package = "" ∨ t.name ∈ primitives ∨ '.' ∈ t.name.toList
    · rw [if_pos (hcomplete.mpr h)]
      simp [h, eq_comm]
    · rw [if_neg (mt hcomplete.mp h)]
      simp [h, eq_comm]

/-- A word that can name a type is read as a type token. -/
theorem ofToken_word {w : String} (hmark : w ∉ [",", "(", ")"])
    (hbrackets : (Token.word w).isBrackets = false) (hreserved : w ∉ reservedWords) :
    ofToken package (.word w) = qualify package w := by
  simp only [List.mem_cons, List.not_mem_nil, or_false, not_or] at hmark
  simp [ofToken, isReserved, hmark, hbrackets, hreserved]

theorem ofToken_eq_ok_iff {base : Token} {type : TypeRef} :
    ofToken package base = .ok type ↔ BaseType package base type := by
  constructor
  · intro h
    cases base with
    | word w =>
      simp only [ofToken] at h
      split at h
      · cases h
      · next hw =>
        simp only [Bool.or_eq_true, not_or, Bool.not_eq_true, beq_iff_eq] at hw
        obtain ⟨⟨⟨⟨hcomma, hopen⟩, hclose⟩, hbrackets⟩, hreserved⟩ := hw
        have hmark : w ∉ [",", "(", ")"] := by simp [hcomma, hopen, hclose]
        have hreserved : w ∉ reservedWords := by simpa [isReserved] using hreserved
        obtain ⟨t, hread, ⟨hcomplete, rfl⟩ | ⟨hbare, rfl⟩⟩ := qualify_eq_ok_iff.mp h
        · exact .complete hmark hbrackets hreserved hread hcomplete
        · exact .bare hmark hbrackets hreserved hread hbare
    | ref q =>
      simp only [ofToken] at h
      split at h
      · next hread =>
        cases h
        exact .link hread
      · cases h
    | literal v => cases h
  · intro h
    cases h with
    | complete hmark hbrackets hreserved hread hcomplete =>
      rw [ofToken_word hmark hbrackets hreserved]
      exact qualify_eq_ok_iff.mpr ⟨_, hread, .inl ⟨hcomplete, rfl⟩⟩
    | bare hmark hbrackets hreserved hread hbare =>
      rw [ofToken_word hmark hbrackets hreserved]
      exact qualify_eq_ok_iff.mpr ⟨_, hread, .inr ⟨hbare, rfl⟩⟩
    | link hread => simp only [ofToken, hread]

theorem bracketPairs?_eq_some_iff {cs : List Char} {n : Nat} :
    bracketPairs? cs = some n ↔ cs = (List.replicate n ['[', ']']).flatten := by
  induction cs using bracketPairs?.induct generalizing n with
  | case1 =>
    rw [bracketPairs?]
    cases n with
    | zero => simp
    | succ n => simp [List.replicate_succ]
  | case2 r ih =>
    rw [bracketPairs?, Option.map_eq_some_iff]
    cases n with
    | zero => simp
    | succ n => simp [List.replicate_succ, ih]
  | case3 cs hempty hpair =>
    rw [bracketPairs?.eq_3 cs hempty hpair]
    cases n with
    | zero => simpa using hempty
    | succ n =>
      simp only [List.replicate_succ, List.flatten_cons, List.cons_append, List.nil_append,
        reduceCtorEq, false_iff]
      exact hpair _

/-- The groups add their pairs, as long as the dimensions stay within the bound. -/
theorem addBrackets_eq_ok_iff {base : Token} {t type : TypeRef} {gs : List Token} :
    addBrackets base t gs = .ok type ↔
      ∃ counts, List.Forall₂ IsPairs gs counts ∧ type.name = t.name ∧
        type.dims = t.dims + counts.sum := by
  induction gs generalizing t with
  | nil =>
    simp only [addBrackets, List.forall₂_nil_left_iff, exists_eq_left, List.sum_nil]
    obtain ⟨name, dims, _⟩ := t
    obtain ⟨name', dims', _⟩ := type
    simp [eq_comm]
  | cons g r ih =>
    rw [addBrackets]
    constructor
    · intro h
      split at h
      · cases h
      · next n hn =>
        split at h
        · obtain ⟨counts, hcounts, hname, hdims⟩ := ih.mp h
          refine ⟨n :: counts, .cons (bracketPairs?_eq_some_iff.mp hn) hcounts, hname, ?_⟩
          rw [hdims, List.sum_cons, Nat.add_assoc]
        · cases h
    · rintro ⟨_, hcounts, hname, hdims⟩
      cases hcounts with
      | @cons _ n _ counts hg hcounts =>
        rw [List.sum_cons, ← Nat.add_assoc] at hdims
        have hbound : t.dims + n ≤ 255 := by
          have := type.dims_le
          omega
        simp only [bracketPairs?_eq_some_iff.mpr hg, dif_pos hbound]
        exact ih.mpr ⟨counts, hcounts, hname, hdims⟩

theorem ofTokens_eq_ok_iff_legalType {base : Token} {gs : List Token} {type : TypeRef} :
    ofTokens package base gs = .ok type ↔ LegalType package base gs type := by
  unfold ofTokens LegalType
  constructor
  · intro h
    split at h
    · next t ht =>
      obtain ⟨counts, hcounts⟩ := addBrackets_eq_ok_iff.mp h
      exact ⟨t, counts, ofToken_eq_ok_iff.mp ht, hcounts⟩
    · cases h
  · rintro ⟨t, counts, ht, hcounts⟩
    rw [ofToken_eq_ok_iff.mpr ht]
    exact addBrackets_eq_ok_iff.mpr ⟨counts, hcounts⟩

end TypeRef

/-! ## Modifiers -/

/-- The access that the first access keyword states; without one, package-private. -/
inductive StatesAccess : List Token → Access → Prop
  | first {front back : List Token} {word : String} {a : Access}
    (hfront : ∀ b v, Access.keyword? b = some v → .word v ∉ front) (ha : a.keyword? = some word) :
    StatesAccess (front ++ .word word :: back) a
  | none {ts : List Token} (h : ∀ b v, Access.keyword? b = some v → .word v ∉ ts) :
    StatesAccess ts .isPackagePrivate

/-- The access and the flags of modifiers: every flag keyword among the words counts. -/
structure Modified (ts : List Token) (access : Access) (flags : Flags) : Prop where
  access : StatesAccess ts access
  isAbstract : flags.isAbstract = true ↔ .word "abstract" ∈ ts
  isStatic : flags.isStatic = true ↔ .word "static" ∈ ts
  isFinal : flags.isFinal = true ↔ .word "final" ∈ ts

theorem Access.ofKeyword?_eq_some_iff {word : String} {a : Access} :
    ofKeyword? word = some a ↔ a.keyword? = some word := by
  refine ⟨fun h => ?_, ofKeyword?_keyword?⟩
  unfold ofKeyword? at h
  split at h
  · next hw =>
    cases h
    rw [hw]
    rfl
  · split at h
    · next hw =>
      cases h
      rw [hw]
      rfl
    · split at h
      · next hw =>
        cases h
        rw [hw]
        rfl
      · cases h

/-- A flag keyword sets its own flag. -/
theorem Flags.ofKeyword?_getD (word : String) :
    (ofKeyword? word).getD .none = ⟨word == "abstract", word == "static", word == "final"⟩ := by
  unfold ofKeyword?
  split
  · next h =>
    subst h
    decide
  · next habstract =>
    split
    · next h =>
      subst h
      decide
    · next hstatic =>
      split
      · next h =>
        subst h
        decide
      · next hfinal => simp [habstract, hstatic, hfinal, none]

theorem foldl_union_flags (ws : List String) (f : Flags) :
    ws.foldl (fun f w => f.union ((Flags.ofKeyword? w).getD .none)) f =
      ⟨f.isAbstract || ws.contains "abstract", f.isStatic || ws.contains "static",
        f.isFinal || ws.contains "final"⟩ := by
  induction ws generalizing f with
  | nil => simp
  | cons w r ih =>
    rw [List.foldl_cons, ih, Flags.ofKeyword?_getD]
    simp only [Flags.union, List.contains_cons, Bool.or_assoc, Bool.beq_comm]

/-- The words of tokens. -/
def wordsOf (ts : List Token) : List String :=
  ts.filterMap fun t => match t with
    | .word w => some w
    | _ => none

theorem mem_wordsOf {ts : List Token} {w : String} : w ∈ wordsOf ts ↔ .word w ∈ ts := by
  rw [wordsOf, List.mem_filterMap]
  constructor
  · rintro ⟨t, ht, hw⟩
    cases t with
    | word v =>
      cases hw
      exact ht
    | ref q => cases hw
    | literal v => cases hw
  · exact fun h => ⟨_, h, rfl⟩

/-- The access a token states. -/
def Token.access? : Token → Option Access
  | .word w => Access.ofKeyword? w
  | _ => none

theorem Token.access?_eq_some_iff {t : Token} {a : Access} :
    t.access? = some a ↔ ∃ w, t = .word w ∧ a.keyword? = some w := by
  cases t with
  | word w => simp [access?, Access.ofKeyword?_eq_some_iff]
  | ref q => simp [access?]
  | literal v => simp [access?]

theorem findSome?_wordsOf (ts : List Token) :
    (wordsOf ts).findSome? Access.ofKeyword? = ts.findSome? Token.access? := by
  induction ts with
  | nil => rfl
  | cons t r ih =>
    rw [List.findSome?_cons, ← ih]
    cases t <;> rfl

theorem readModifiers_fst_eq_iff {ts : List Token} {a : Access} :
    (readModifiers ts).1 = a ↔ StatesAccess ts a := by
  have hread : (readModifiers ts).1 = (ts.findSome? Token.access?).getD .isPackagePrivate :=
    congrArg (Option.getD · _) (findSome?_wordsOf ts)
  rw [hread]
  have hnone : ∀ ts : List Token, (∀ t ∈ ts, t.access? = none) ↔
      ∀ b v, Access.keyword? b = some v → .word v ∉ ts := by
    intro ts
    simp only [Option.eq_none_iff_forall_ne_some, ne_eq, Token.access?_eq_some_iff]
    constructor
    · exact fun h b v hb hv => h _ hv b ⟨v, rfl, hb⟩
    · rintro h t ht b ⟨v, rfl, hb⟩
      exact h b v hb ht
  constructor
  · rintro rfl
    cases hfind : ts.findSome? Token.access? with
    | none => exact .none ((hnone ts).mp (List.findSome?_eq_none_iff.mp hfind))
    | some a =>
      obtain ⟨front, t, back, rfl, ht, hfront⟩ := List.findSome?_eq_some_iff.mp hfind
      obtain ⟨word, rfl, hword⟩ := Token.access?_eq_some_iff.mp ht
      exact .first ((hnone front).mp hfront) hword
  · intro h
    cases h with
    | @first front back word a hfront ha =>
      have hfind : (front ++ .word word :: back).findSome? Token.access? = some a :=
        List.findSome?_eq_some_iff.mpr ⟨front, _, back, rfl,
          Token.access?_eq_some_iff.mpr ⟨word, rfl, ha⟩, (hnone front).mpr hfront⟩
      rw [hfind]
      rfl
    | none h =>
      rw [List.findSome?_eq_none_iff.mpr ((hnone ts).mpr h)]
      rfl

theorem readModifiers_eq_iff {ts : List Token} {access : Access} {flags : Flags} :
    readModifiers ts = (access, flags) ↔ Modified ts access flags := by
  have hflags : (readModifiers ts).2 = ⟨(wordsOf ts).contains "abstract",
      (wordsOf ts).contains "static", (wordsOf ts).contains "final"⟩ :=
    (foldl_union_flags (wordsOf ts) .none).trans (by simp [Flags.none])
  have hflag : ∀ (b : Bool) (w : String),
      (wordsOf ts).contains w = b ↔ (b = true ↔ .word w ∈ ts) := by
    intro b w
    rw [← mem_wordsOf, ← List.contains_iff_mem, Bool.eq_iff_iff]
    exact Iff.comm
  obtain ⟨isAbstract, isStatic, isFinal⟩ := flags
  rw [Prod.ext_iff, readModifiers_fst_eq_iff, hflags, Flags.mk.injEq, hflag, hflag, hflag]
  constructor
  · rintro ⟨ha, habstract, hstatic, hfinal⟩
    exact ⟨ha, habstract, hstatic, hfinal⟩
  · rintro ⟨ha, habstract, hstatic, hfinal⟩
    exact ⟨ha, habstract, hstatic, hfinal⟩

/-! ## Parameters and exceptions -/

/-- A parameter: the tokens of a type and a name. -/
def IsParameter (package : String) (part : List Token) (a : Argument) : Prop :=
  ∃ base brackets, part = base :: (brackets ++ [.word a.name]) ∧
    (∀ g ∈ brackets, g.isBrackets = true) ∧ LegalType package base brackets a.type ∧
    isMemberName a.name = true

/-- Parameters with commas between them; a comma may stand at the end. -/
def IsParameterList (package : String) (ts : List Token) (arguments : List Argument) : Prop :=
  ∃ parts, List.Forall₂ (IsParameter package) parts arguments ∧
    (ts = [.word ","].intercalate parts ∨
      parts ≠ [] ∧ ts = [.word ","].intercalate parts ++ [.word ","])

/-- What stands behind the parameters: anything that does not start with `throws`, or `throws` with
types behind it and commas anywhere among them. -/
def IsThrows (package : String) (ts : List Token) (types : List TypeRef) : Prop :=
  (ts.head? ≠ some (.word "throws") ∧ types = []) ∨
    ∃ rest, ts = .word "throws" :: rest ∧
      List.Forall₂ (fun t type => LegalType package t [] type)
        (rest.filter fun t => t ≠ .word ",") types

theorem isParameterList_of_argumentTokens {ts : List Token} {arguments : List Argument}
    (h : ArgumentTokens package ts arguments) : IsParameterList package ts arguments := by
  induction h with
  | nil => exact ⟨[], .nil, .inl rfl⟩
  | @last base gs type name hgs htype hname =>
    have hpart : IsParameter package (base :: (gs ++ [.word name])) ⟨type, name⟩ :=
      ⟨base, gs, rfl, hgs, TypeRef.ofTokens_eq_ok_iff_legalType.mp htype, hname⟩
    exact ⟨[_], .cons hpart .nil, .inl (by simp)⟩
  | @cons base gs r type name arguments hgs htype hname hr ih =>
    have hpart : IsParameter package (base :: (gs ++ [.word name])) ⟨type, name⟩ :=
      ⟨base, gs, rfl, hgs, TypeRef.ofTokens_eq_ok_iff_legalType.mp htype, hname⟩
    obtain ⟨parts, hparts, hlist⟩ := ih
    cases parts with
    | nil =>
      -- nothing stands behind the comma
      obtain rfl : r = [] := by simpa using hlist
      cases hparts
      exact ⟨[_], .cons hpart .nil, .inr ⟨by simp, by simp⟩⟩
    | cons part parts =>
      refine ⟨_ :: part :: parts, .cons hpart hparts, ?_⟩
      rw [List.intercalate_cons_cons]
      rcases hlist with rfl | ⟨-, rfl⟩
      · exact .inl (by simp)
      · exact .inr ⟨by simp, by simp⟩

theorem argumentTokens_of_isParameterList {ts : List Token} {arguments : List Argument}
    (h : IsParameterList package ts arguments) : ArgumentTokens package ts arguments := by
  obtain ⟨parts, hparts, hlist⟩ := h
  induction hparts generalizing ts with
  | nil =>
    obtain rfl : ts = [] := by simpa using hlist
    exact .nil
  | @cons part a parts arguments hpart hparts ih =>
    obtain ⟨base, gs, rfl, hgs, htype, hname⟩ := hpart
    have htype := TypeRef.ofTokens_eq_ok_iff_legalType.mpr htype
    cases hparts with
    | nil =>
      rcases hlist with rfl | ⟨-, rfl⟩
      · rw [List.intercalate_singleton]
        exact .last hgs htype hname
      · have hone := ArgumentTokens.cons hgs htype hname .nil
        simpa using hone
    | @cons next b parts arguments hnext hparts =>
      rw [List.intercalate_cons_cons] at hlist
      rcases hlist with rfl | ⟨-, rfl⟩
      · have hrest := ArgumentTokens.cons hgs htype hname (ih (.inl rfl))
        simpa using hrest
      · have hrest := ArgumentTokens.cons hgs htype hname (ih (.inr ⟨by simp, rfl⟩))
        simpa using hrest

theorem argumentTokens_iff {ts : List Token} {arguments : List Argument} :
    ArgumentTokens package ts arguments ↔ IsParameterList package ts arguments :=
  ⟨isParameterList_of_argumentTokens, argumentTokens_of_isParameterList⟩

theorem throwsTokens_iff {ts : List Token} {types : List TypeRef} :
    ThrowsTokens package ts types ↔ IsThrows package ts types := by
  have hcommas : ∀ ts : List Token,
      (ts.filter fun t => !t.isWord ",") = ts.filter fun t => t ≠ .word "," := by
    intro ts
    refine List.filter_congr fun t _ => ?_
    rw [Token.isWord, Bool.beq_eq_decide_eq, decide_not]
  constructor
  · intro h
    cases h with
    | other h => exact .inl ⟨h, rfl⟩
    | @clause ts types h =>
      rw [hcommas] at h
      exact .inr ⟨ts, rfl, h.imp fun _ _ => TypeRef.ofTokens_eq_ok_iff_legalType.mp⟩
  · rintro (⟨h, rfl⟩ | ⟨rest, rfl, h⟩)
    · exact .other h
    · refine .clause ?_
      rw [hcommas]
      exact h.imp fun _ _ => TypeRef.ofTokens_eq_ok_iff_legalType.mpr

/-! ## Declarations -/

/-- What stands behind the first `(`: the parameters up to the first `)`, then the exceptions. -/
def ParameterShape (package : String) (ts : List Token) (arguments : List Argument)
    (throws : List TypeRef) : Prop :=
  ∃ inside after, ts = inside ++ .word ")" :: after ∧ .word ")" ∉ inside ∧
    IsParameterList package inside arguments ∧ IsThrows package after throws

/-- A method: modifiers, a type, a name, parameters in parentheses, and what it throws. -/
def MethodShape (package : String) (ts : List Token) (d : MethodDecl) : Prop :=
  ∃ modifiers base brackets after,
    ts = modifiers ++ base :: brackets ++ .word d.name :: .word "(" :: after ∧
    .word "(" ∉ modifiers ++ base :: brackets ++ [.word d.name] ∧
    base.isBrackets = false ∧ (∀ g ∈ brackets, g.isBrackets = true) ∧
    LegalType package base brackets d.returnType ∧ isMemberName d.name = true ∧
    Modified modifiers d.access d.flags ∧ ParameterShape package after d.arguments d.throws

/-- A constructor: modifiers, a name, parameters in parentheses, and what it throws. -/
def ConstructorShape (package : String) (ts : List Token) (d : ConstructorDecl) : Prop :=
  ∃ modifiers name after, ts = modifiers ++ .word name :: .word "(" :: after ∧
    .word "(" ∉ modifiers ++ [.word name] ∧ isMemberName name = true ∧
    StatesAccess modifiers d.access ∧ ParameterShape package after d.arguments d.throws

theorem parameterTokens_iff {ts : List Token} {arguments : List Argument} {throws : List TypeRef} :
    ParameterTokens package ts arguments throws ↔ ParameterShape package ts arguments throws := by
  constructor
  · rintro ⟨hinside, harguments, hthrows⟩
    exact ⟨_, _, rfl, hinside, argumentTokens_iff.mp harguments, throwsTokens_iff.mp hthrows⟩
  · rintro ⟨inside, after, rfl, hinside, harguments, hthrows⟩
    exact .mk hinside (argumentTokens_iff.mpr harguments) (throwsTokens_iff.mpr hthrows)

/-- The name stands in front of the first `(`. -/
theorem not_mem_open_iff {front : List Token} {name : String} (hname : isMemberName name = true) :
    .word "(" ∉ front ++ [.word name] ↔ .word "(" ∉ front := by
  have hne : Token.word "(" ≠ .word name := ne_of_isMemberName hname (by decide +kernel)
  simp [hne]

theorem methodTokens_iff {ts : List Token} {d : MethodDecl} :
    MethodTokens package ts d ↔ MethodShape package ts d := by
  constructor
  · intro h
    cases h with
    | @mk modifiers gs after base name type arguments throws hmodifiers hgs htype hname hafter =>
      obtain ⟨hbase, hne, -⟩ := base_of_ofTokens htype
      refine ⟨modifiers, base, gs, after, by simp, ?_, hbase, hgs,
        TypeRef.ofTokens_eq_ok_iff_legalType.mp htype, hname, readModifiers_eq_iff.mp rfl,
        parameterTokens_iff.mp hafter⟩
      rw [not_mem_open_iff hname]
      intro hmem
      rcases List.mem_append.mp hmem with hmem | hmem
      · exact hmodifiers hmem
      rcases List.mem_cons.mp hmem with hmem | hmem
      · exact hne hmem.symm
      · exact absurd (hgs _ hmem) (by decide)
  · rintro ⟨modifiers, base, gs, after, rfl, hopen, -, hgs, htype, hname, hmodified, hafter⟩
    have hmodifiers : .word "(" ∉ modifiers := by
      intro hmem
      exact hopen (by simp [hmem])
    have hmethod := MethodTokens.mk hmodifiers hgs (TypeRef.ofTokens_eq_ok_iff_legalType.mpr htype)
      hname (parameterTokens_iff.mpr hafter)
    rw [readModifiers_eq_iff.mpr hmodified] at hmethod
    simpa using hmethod

theorem constructorTokens_iff {ts : List Token} {d : ConstructorDecl} :
    ConstructorTokens package ts d ↔ ConstructorShape package ts d := by
  constructor
  · intro h
    cases h with
    | @mk modifiers after name arguments throws hmodifiers hname hafter =>
      exact ⟨modifiers, name, after, rfl, (not_mem_open_iff hname).mpr hmodifiers, hname,
        (readModifiers_eq_iff.mp rfl).access, parameterTokens_iff.mp hafter⟩
  · obtain ⟨access, arguments, throws⟩ := d
    rintro ⟨modifiers, name, after, rfl, hopen, hname, hmodified, hafter⟩
    have hconstructor := ConstructorTokens.mk ((not_mem_open_iff hname).mp hopen) hname
      (parameterTokens_iff.mpr hafter)
    rwa [readModifiers_fst_eq_iff.mpr hmodified] at hconstructor

/-- Methods and constructors are read from exactly the tokens that have their shape, and what is read
is what the parts of the shape state. -/
theorem readers_accept_shapes (ts : List Token) (package : String) :
    (∀ d, readMethod ts package = .ok d ↔ MethodShape package ts d) ∧
      ∀ d, readConstructor ts package = .ok d ↔ ConstructorShape package ts d :=
  ⟨fun _ => readMethod_eq_ok_iff.trans methodTokens_iff,
    fun _ => readConstructor_eq_ok_iff.trans constructorTokens_iff⟩

end ApiDoc
