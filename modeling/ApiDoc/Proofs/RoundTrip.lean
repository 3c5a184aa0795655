import ApiDoc.Proofs.Grammar
import ApiDoc.Proofs.TypeTokens

/-!
# Printed constructors and methods read back

A member is complete on the pages of a package when all its types have complete names, its names are
names of members, and the types it throws have no dimensions.  A member read from lexed tokens is
complete; the printed form of a complete member is cut into tokens that the grammar accepts, with
the same member as the result.  So reading, printing and reading again gives what the first reading
gave (`printed_members_read_back`).
-/

namespace ApiDoc

variable {package : String}

/-! ## Complete members -/

/-- Parameters and `throws` clause of a complete member. -/
structure CompleteParameters (package : String) (arguments : List Argument)
    (throws : List TypeRef) : Prop where
  argumentType : ∀ a ∈ arguments, CompleteName package a.type.name
  argumentName : ∀ a ∈ arguments, isMemberName a.name = true
  thrownName : ∀ t ∈ throws, CompleteName package t.name
  thrownDims : ∀ t ∈ throws, t.dims = 0

namespace Constructor

/-- A constructor that reads back on the pages of `package`. -/
def Complete (package : String) (c : Constructor) : Prop :=
  CompleteParameters package c.arguments c.throws.toList

/-- The declaration the printed constructor stands for. -/
def toDecl (c : Constructor) : ConstructorDecl := ⟨c.access, c.arguments, c.throws.toList⟩

end Constructor

namespace Method

/-- A method that reads back on the pages of `package`. -/
structure Complete (package : String) (m : Method) : Prop where
  returnType : CompleteName package m.returnType.name
  name : isMemberName m.name = true
  parameters : CompleteParameters package m.arguments m.throws.toList

/-- The declaration the printed method stands for. -/
def toDecl (m : Method) : MethodDecl :=
  ⟨m.access, m.flags, m.name, m.returnType, m.arguments, m.throws.toList⟩

end Method

theorem OrderedSet.ofList_toList (s : OrderedSet TypeRef) : OrderedSet.ofList s.toList = s := by
  ext t
  rw [OrderedSet.mem_ofList, OrderedSet.mem_def]

theorem Constructor.toConstructor_toDecl (c : Constructor) : c.toDecl.toConstructor = c := by
  simp only [toDecl, ConstructorDecl.toConstructor, OrderedSet.ofList_toList]

theorem Method.toMethod_toDecl (m : Method) : m.toDecl.toMethod = m := by
  simp only [toDecl, MethodDecl.toMethod, OrderedSet.ofList_toList]

/-! ## Members that are read are complete -/

section
variable {ts : List Token}

theorem complete_of_argumentTokens {arguments : List Argument} (hp : IsPackage package)
    (hts : ∀ t ∈ ts, t.IsSound) (h : ArgumentTokens package ts arguments) :
    ∀ a ∈ arguments, CompleteName package a.type.name ∧ isMemberName a.name = true := by
  induction h with
  | nil => simp
  | @last base gs type name hgs htype hname =>
    intro a ha
    rw [List.mem_singleton.mp ha]
    exact ⟨TypeRef.completeName_of_ofTokens hp (hts _ List.mem_cons_self) htype, hname⟩
  | @cons base gs r type name arguments hgs htype hname hr ih =>
    intro a ha
    rcases List.mem_cons.mp ha with rfl | ha
    · exact ⟨TypeRef.completeName_of_ofTokens hp (hts _ List.mem_cons_self) htype, hname⟩
    · refine ih (fun t ht => hts t ?_) a ha
      simp [ht]

theorem complete_of_throwsTokens {throws : List TypeRef} (hp : IsPackage package)
    (hts : ∀ t ∈ ts, t.IsSound) (h : ThrowsTokens package ts throws) :
    ∀ t ∈ throws, CompleteName package t.name ∧ t.dims = 0 := by
  cases h with
  | other _ => simp
  | @clause ts throws h =>
    have hsound : ∀ t ∈ ts.filter fun t => !t.isWord ",", t.IsSound := fun t ht =>
      hts t (List.mem_cons_of_mem _ (List.mem_filter.mp ht).1)
    generalize (ts.filter fun t => !t.isWord ",") = types at h hsound
    induction h with
    | nil => simp
    | @cons t type types throws ht _ ih =>
      intro u hu
      rcases List.mem_cons.mp hu with rfl | hu
      · obtain ⟨v, hv, hu⟩ := TypeRef.ofTokens_eq_ok_iff.mp ht
        cases hu
        exact TypeRef.completeName_of_ofToken hp (hsound t List.mem_cons_self) hv
      · exact ih (fun t ht => hsound t (List.mem_cons_of_mem _ ht)) u hu

theorem complete_of_parameterTokens {arguments : List Argument} {throws : List TypeRef}
    (hp : IsPackage package) (hts : ∀ t ∈ ts, t.IsSound)
    (h : ParameterTokens package ts arguments throws) :
    CompleteParameters package arguments (OrderedSet.ofList throws).toList := by
  cases h with
  | @mk inside after arguments throws _ harguments hthrows =>
    have ha := complete_of_argumentTokens hp (fun t ht => hts t (by simp [ht])) harguments
    have ht := complete_of_throwsTokens hp (fun t ht => hts t (by simp [ht])) hthrows
    have hmem : ∀ t ∈ (OrderedSet.ofList throws).toList, t ∈ throws := fun t h =>
      OrderedSet.mem_ofList.mp h
    exact ⟨fun a h => (ha a h).1, fun a h => (ha a h).2, fun t h => (ht t (hmem t h)).1,
      fun t h => (ht t (hmem t h)).2⟩

theorem complete_of_readConstructor {d : ConstructorDecl} (hp : IsPackage package)
    (hts : ∀ t ∈ ts, t.IsSound) (h : readConstructor ts package = .ok d) :
    d.toConstructor.Complete package := by
  cases readConstructor_eq_ok_iff.mp h with
  | mk _ _ hafter => exact complete_of_parameterTokens hp (fun t ht => hts t (by simp [ht])) hafter

theorem complete_of_readMethod {d : MethodDecl} (hp : IsPackage package)
    (hts : ∀ t ∈ ts, t.IsSound) (h : readMethod ts package = .ok d) :
    d.toMethod.Complete package := by
  cases readMethod_eq_ok_iff.mp h with
  | mk _ _ htype hname hafter =>
    refine ⟨?_, hname, ?_⟩
    · exact TypeRef.completeName_of_ofTokens hp (hts _ (by simp)) htype
    · exact complete_of_parameterTokens hp (fun t ht => hts t (by simp [ht])) hafter

end

/-! ## The tokens of printed members -/

def tokensOfModifiers (access : Access) (flags : Flags) : List Token :=
  (access.keyword?.toList ++ flags.keywords).map .word

/-- The type and the name of a parameter. -/
def Argument.tokens (a : Argument) : List Token := a.type.tokens ++ [.word a.name]

def tokensOfArguments (arguments : List Argument) : List Token :=
  [.word ","].intercalate (arguments.map Argument.tokens)

/-- A keyword and the types behind it; no types, no clause. -/
def tokensOfClause (keyword : String) (types : List TypeRef) : List Token :=
  if types.isEmpty then [] else .word keyword :: [.word ","].intercalate (types.map TypeRef.tokens)

/-- What is printed behind the opening parenthesis. -/
def tokensOfParameters (arguments : List Argument) (throws : List TypeRef) : List Token :=
  tokensOfArguments arguments ++ .word ")" :: tokensOfClause "throws" throws

def Constructor.tokens (c : Constructor) (name : String) : List Token :=
  tokensOfModifiers c.access .none ++ .word name :: .word "(" ::
    tokensOfParameters c.arguments c.throws.toList

def Method.tokens (m : Method) : List Token :=
  tokensOfModifiers m.access m.flags ++ .word m.returnType.name ::
    (List.replicate m.returnType.dims (.word "[]") ++ .word m.name :: .word "(" ::
      tokensOfParameters m.arguments m.throws.toList)

/-- A nonempty word of name characters is one token. -/
theorem spells_name {w : String} (h : w ≠ "" ∧ w.toList.all Text.isNameChar = true) :
    Spells w.toList [.word w] :=
  .word h.1 fun c hc => isPlain_of_isNameChar (List.all_eq_true.mp h.2 c hc)

theorem spells_memberName {name : String} (h : isMemberName name = true) :
    Spells name.toList [.word name] := by
  simp only [isMemberName, Bool.and_eq_true, Bool.not_eq_true'] at h
  refine spells_name ⟨?_, h.2⟩
  rintro rfl
  exact absurd h.1.1.1.1 (by decide)

/-- Words with a space behind each stand in front of what follows. -/
theorem spells_words {ws : List String} (hws : ∀ w ∈ ws, Spells w.toList [.word w])
    {cs : List Char} {ts : List Token} (h : Spells cs ts) :
    Spells ((String.join (ws.map (· ++ " "))).toList ++ cs) (ws.map .word ++ ts) := by
  induction ws with
  | nil => simpa using h
  | cons w ws ih =>
    have hrest := ih fun v hv => hws v (List.mem_cons_of_mem _ hv)
    have hall := (hws w List.mem_cons_self).append_blank hrest
    simpa [String.join_cons, String.toList_append] using hall

/-- The words that are printed for access and flags. -/
def modifierWords : List String := ["public", "protected", "private", "abstract", "static", "final"]

theorem mem_modifierWords {access : Access} {flags : Flags} :
    ∀ w ∈ access.keyword?.toList ++ flags.keywords, w ∈ modifierWords := by
  obtain ⟨isAbstract, isStatic, isFinal⟩ := flags
  cases access <;> cases isAbstract <;> cases isStatic <;> cases isFinal <;> decide

theorem spells_modifiers (access : Access) (flags : Flags) {cs : List Char} {ts : List Token}
    (h : Spells cs ts) :
    Spells ((printModifiers access flags).toList ++ cs) (tokensOfModifiers access flags ++ ts) := by
  have hwords : ∀ w ∈ modifierWords, w ≠ "" ∧ w.toList.all Text.isNameChar = true := by
    decide +kernel
  exact spells_words (fun w hw => spells_name (hwords w (mem_modifierWords w hw))) h

theorem spells_argument {a : Argument} (ht : CompleteName package a.type.name)
    (hn : isMemberName a.name = true) : Spells a.print.toList a.tokens := by
  have hlist : a.print.toList = a.type.print.toList ++ ' ' :: a.name.toList := by
    simp [Argument.print, String.toList_append]
  rw [hlist]
  exact (TypeRef.spells_print ht.isTypeName).append_blank (spells_memberName hn)

/-- Items that are printed one by one are printed as a list with commas. -/
theorem spells_intercalate {α : Type} {print : α → String} {tokens : α → List Token} {l : List α}
    (h : ∀ a ∈ l, Spells (print a).toList (tokens a)) :
    Spells (", ".intercalate (l.map print)).toList ([.word ","].intercalate (l.map tokens)) := by
  have hall : List.Forall₂ Spells ((l.map print).map String.toList) (l.map tokens) := by
    rw [List.map_map, List.forall₂_map_left_iff, List.forall₂_map_right_iff, List.forall₂_same]
    exact h
  rw [String.toList_intercalate]
  exact .intercalate hall

theorem spells_clause {keyword : String} (hk : Spells keyword.toList [.word keyword])
    {types : List TypeRef} (h : ∀ t ∈ types, CompleteName package t.name) :
    Spells (printClause keyword types).toList (tokensOfClause keyword types) := by
  unfold printClause tokensOfClause
  by_cases he : types.isEmpty = true
  · rw [if_pos he, if_pos he]
    exact .nil
  · rw [if_neg he, if_neg he]
    have htypes : Spells (", ".intercalate (types.map TypeRef.print)).toList
        ([.word ","].intercalate (types.map TypeRef.tokens)) :=
      spells_intercalate fun t ht => TypeRef.spells_print (h t ht).isTypeName
    have hlist : (" " ++ keyword ++ " " ++ ", ".intercalate (types.map TypeRef.print)).toList =
        [] ++ ' ' :: (keyword.toList ++ ' ' :: (", ".intercalate (types.map TypeRef.print)).toList) := by
      simp [String.toList_append]
    rw [hlist]
    exact Spells.nil.append_blank (hk.append_blank htypes)

/-- A name with its parameters and the types it throws. -/
theorem spells_parameters {name : String} (hname : Spells name.toList [.word name])
    {arguments : List Argument} {throws : List TypeRef}
    (h : CompleteParameters package arguments throws) :
    Spells (name ++ printArguments arguments ++ printClause "throws" throws).toList
      (.word name :: .word "(" :: tokensOfParameters arguments throws) := by
  have hthrows : Spells "throws".toList [.word "throws"] :=
    spells_name (by decide +kernel)
  have harguments : Spells (", ".intercalate (arguments.map Argument.print)).toList
      (tokensOfArguments arguments) :=
    spells_intercalate fun a ha => spells_argument (h.argumentType a ha) (h.argumentName a ha)
  have hlist : (name ++ printArguments arguments ++ printClause "throws" throws).toList =
      name.toList ++ '(' :: ((", ".intercalate (arguments.map Argument.print)).toList ++
        ')' :: (printClause "throws" throws).toList) := by
    simp [printArguments, String.toList_append]
  rw [hlist]
  exact hname.append_mark (.inl rfl)
    (harguments.append_mark (.inr (.inl rfl)) (spells_clause hthrows h.thrownName))

theorem Constructor.spells_print {c : Constructor} (h : c.Complete package) {name : String}
    (hname : Spells name.toList [.word name]) : Spells (c.print name).toList (c.tokens name) := by
  have hlist : (c.print name).toList = (printModifiers c.access .none).toList ++
      (name ++ printArguments c.arguments ++ printClause "throws" c.throws.toList).toList := by
    simp [Constructor.print, String.toList_append]
  rw [hlist]
  exact spells_modifiers _ _ (spells_parameters hname h)

theorem Method.spells_print {m : Method} (h : m.Complete package) :
    Spells m.print.toList m.tokens := by
  have hlist : m.print.toList = (printModifiers m.access m.flags).toList ++
      (m.returnType.print.toList ++ ' ' ::
        (m.name ++ printArguments m.arguments ++ printClause "throws" m.throws.toList).toList) := by
    simp [Method.print, String.toList_append]
  have htype := TypeRef.spells_print h.returnType.isTypeName
  have hrest := spells_parameters (spells_memberName h.name) h.parameters
  rw [hlist]
  exact spells_modifiers _ _ (htype.append_blank hrest)

/-! ## Reading the tokens of printed members -/

theorem readModifiers_tokens (access : Access) (flags : Flags) :
    readModifiers (tokensOfModifiers access flags) = (access, flags) := by
  obtain ⟨isAbstract, isStatic, isFinal⟩ := flags
  cases access <;> cases isAbstract <;> cases isStatic <;> cases isFinal <;> decide

theorem not_mem_tokensOfModifiers (access : Access) (flags : Flags) {w : String}
    (hw : w ∉ modifierWords) : .word w ∉ tokensOfModifiers access flags := by
  intro h
  obtain ⟨v, hv, he⟩ := List.mem_map.mp h
  exact hw (Token.word.inj he ▸ mem_modifierWords v hv)

theorem isBrackets_of_mem_replicate {n : Nat} :
    ∀ g ∈ List.replicate n (Token.word "[]"), g.isBrackets = true := by
  intro g hg
  rw [List.eq_of_mem_replicate hg]
  rfl

theorem argumentTokens_tokens {arguments : List Argument}
    (ht : ∀ a ∈ arguments, CompleteName package a.type.name)
    (hn : ∀ a ∈ arguments, isMemberName a.name = true) :
    ArgumentTokens package (tokensOfArguments arguments) arguments := by
  induction arguments with
  | nil => exact .nil
  | cons a r ih =>
    have htype := TypeRef.ofTokens_tokens (ht a List.mem_cons_self)
    have hname := hn a List.mem_cons_self
    cases r with
    | nil =>
      have hlist : tokensOfArguments [a] =
          .word a.type.name :: (List.replicate a.type.dims (.word "[]") ++ [.word a.name]) := by
        simp [tokensOfArguments, Argument.tokens, TypeRef.tokens]
      rw [hlist]
      exact .last isBrackets_of_mem_replicate htype hname
    | cons b r =>
      have hrest := ih (fun c hc => ht c (List.mem_cons_of_mem _ hc))
        (fun c hc => hn c (List.mem_cons_of_mem _ hc))
      have hlist : tokensOfArguments (a :: b :: r) = .word a.type.name ::
          (List.replicate a.type.dims (.word "[]") ++ .word a.name :: .word "," ::
            tokensOfArguments (b :: r)) := by
        simp [tokensOfArguments, Argument.tokens, TypeRef.tokens, List.intercalate_cons_cons]
      rw [hlist]
      exact .cons isBrackets_of_mem_replicate htype hname hrest

/-- Without the commas, types without dimensions are one token each. -/
theorem filter_intercalate_tokens {types : List TypeRef}
    (h : ∀ t ∈ types, CompleteName package t.name) (hd : ∀ t ∈ types, t.dims = 0) :
    ([.word ","].intercalate (types.map TypeRef.tokens)).filter (fun t => !t.isWord ",") =
      types.map fun t => .word t.name := by
  have hone : ∀ t ∈ types, t.tokens.filter (fun t => !t.isWord ",") = [.word t.name] := by
    intro t ht
    have hne : Token.word t.name ≠ .word "," := by
      intro e
      have hname := (h t ht).isTypeName
      rw [Token.word.inj e] at hname
      exact absurd hname (by decide +kernel)
    have hkeep : (Token.word t.name).isWord "," = false := by
      rw [Bool.eq_false_iff]
      exact mt Token.isWord_iff.mp hne
    simp [TypeRef.tokens, hd t ht, hkeep]
  clear h hd
  induction types with
  | nil => rfl
  | cons t r ih =>
    have ht := hone t List.mem_cons_self
    have hr := ih fun u hu => hone u (List.mem_cons_of_mem _ hu)
    cases r with
    | nil => simpa using ht
    | cons u r =>
      have hcomma : [Token.word ","].filter (fun t => !t.isWord ",") = [] := by decide
      rw [List.map_cons, List.map_cons, List.intercalate_cons_cons, List.filter_append,
        List.filter_append, ht, hcomma, ← List.map_cons, hr]
      rfl

theorem throwsTokens_tokens {throws : List TypeRef}
    (h : ∀ t ∈ throws, CompleteName package t.name) (hd : ∀ t ∈ throws, t.dims = 0) :
    ThrowsTokens package (tokensOfClause "throws" throws) throws := by
  unfold tokensOfClause
  by_cases he : throws.isEmpty = true
  · rw [if_pos he, List.isEmpty_iff.mp he]
    exact .other (by simp)
  · rw [if_neg he]
    refine .clause ?_
    rw [filter_intercalate_tokens h hd, List.forall₂_map_left_iff, List.forall₂_same]
    intro t ht
    have htokens := TypeRef.ofTokens_tokens (h t ht)
    rwa [hd t ht] at htokens

theorem parameterTokens_tokens {arguments : List Argument} {throws : List TypeRef}
    (h : CompleteParameters package arguments throws) :
    ParameterTokens package (tokensOfParameters arguments throws) arguments throws := by
  have harguments := argumentTokens_tokens h.argumentType h.argumentName
  exact .mk (not_mem_of_argumentTokens harguments) harguments
    (throwsTokens_tokens h.thrownName h.thrownDims)

/-! ## Round trips -/

/-- A complete constructor is read back from its printed form, whatever class name it is printed
with. -/
theorem Constructor.readConstructor_print {c : Constructor} (h : c.Complete package) {name : String}
    (hname : isMemberName name = true) :
    readConstructor (tokenize (c.print name)) package = .ok c.toDecl := by
  have htokens := ConstructorTokens.mk (not_mem_tokensOfModifiers c.access .none (by decide)) hname
    (parameterTokens_tokens h)
  rw [readModifiers_tokens] at htokens
  rw [(Constructor.spells_print h (spells_memberName hname)).tokenize_eq]
  exact readConstructor_eq_ok_iff.mpr htokens

/-- A complete method is read back from its printed form. -/
theorem Method.readMethod_print {m : Method} (h : m.Complete package) :
    readMethod (tokenize m.print) package = .ok m.toDecl := by
  have htokens := MethodTokens.mk (not_mem_tokensOfModifiers m.access m.flags (by decide))
    isBrackets_of_mem_replicate (TypeRef.ofTokens_tokens h.returnType) h.name
    (parameterTokens_tokens h.parameters)
  rw [readModifiers_tokens] at htokens
  rw [(Method.spells_print h).tokenize_eq]
  exact readMethod_eq_ok_iff.mpr htokens

/-- Reading, printing and reading again gives the member of the first reading, for constructors
under any class name. -/
theorem printed_members_read_back {ts : List Token} (hp : IsPackage package) (hl : Lexed ts)
    (hd : ∀ q, .ref q ∈ ts → '.' ∈ q.toList) :
    (∀ d, readMethod ts package = .ok d →
      ∃ d', readMethod (tokenize d.toMethod.print) package = .ok d' ∧ d'.toMethod = d.toMethod) ∧
    (∀ d, readConstructor ts package = .ok d → ∀ name, isMemberName name = true →
      ∃ d', readConstructor (tokenize (d.toConstructor.print name)) package = .ok d' ∧
        d'.toConstructor = d.toConstructor) := by
  have hts : ∀ t ∈ ts, t.IsSound := fun t ht => ⟨hl.form t ht, fun q hq => hd q (hq ▸ ht)⟩
  constructor
  · intro d h
    have hcomplete := complete_of_readMethod hp hts h
    exact ⟨_, Method.readMethod_print hcomplete, Method.toMethod_toDecl _⟩
  · intro d h name hname
    have hcomplete := complete_of_readConstructor hp hts h
    exact ⟨_, Constructor.readConstructor_print hcomplete hname, Constructor.toConstructor_toDecl _⟩

/-- A declaration block with a linked type, a bare one, a comma at the end of the parameters and an
exception that is named twice. -/
def linkedBlock : Html.Node :=
  .element "pre" [] [.text "public static native ",
    .element "a" [("href", "../../java/io/Reader.html")] [.text "Reader"],
    .text "[] open(Source[] ", .element "b" [] [.text "from, int\u00A0limit"],
    .text ",) throws Broken, Broken"]

def linkedTokens : List Token :=
  [.word "public", .word "static", .word "native", .ref "java.io.Reader", .word "[]", .word "open",
    .word "(", .word "Source", .word "[]", .word "from", .word ",", .word "int", .word "limit",
    .word ",", .word ")", .word "throws", .word "Broken", .word ",", .word "Broken"]

def linkedMethod : MethodDecl :=
  { access := .isPublic, flags := ⟨false, true, false⟩, name := "open"
    returnType := ⟨"java.io.Reader", 1, by decide⟩
    arguments := [⟨⟨"p.q.Source", 1, by decide⟩, "from"⟩, ⟨.ofName "int", "limit"⟩]
    throws := [.ofName "p.q.Broken", .ofName "p.q.Broken"] }

/-- The block read as a method, and as a constructor that is printed under another name. -/
theorem printed_members_read_back_of_linkedBlock :
    IsPackage "p.q" ∧ lexElement "p.q" linkedBlock = .ok linkedTokens ∧
      (∀ q, .ref q ∈ linkedTokens → '.' ∈ q.toList) ∧
      readMethod linkedTokens "p.q" = .ok linkedMethod ∧
      linkedMethod.toMethod.print =
        "public static java.io.Reader[] open(p.q.Source[] from, int limit) throws p.q.Broken" ∧
      (∃ d, readMethod (tokenize linkedMethod.toMethod.print) "p.q" = .ok d ∧
        d.toMethod = linkedMethod.toMethod) ∧
      ∃ c d, readConstructor linkedTokens "p.q" = .ok c ∧
        readConstructor (tokenize (c.toConstructor.print "Stream")) "p.q" = .ok d ∧
        d.toConstructor = c.toConstructor := by
  have hp : IsPackage "p.q" := .inr (by decide +kernel)
  have hlex : lexElement "p.q" linkedBlock = .ok linkedTokens := by decide +kernel
  have hdot : ∀ q, .ref q ∈ linkedTokens → '.' ∈ q.toList := by
    intro q hq
    simp only [linkedTokens, List.mem_cons, Token.ref.injEq, reduceCtorEq, List.not_mem_nil, false_or,
      or_false] at hq
    rw [hq]
    decide
  have hmethod : readMethod linkedTokens "p.q" = .ok linkedMethod := by decide +kernel
  have hconstructor : readConstructor linkedTokens "p.q" =
      .ok ⟨.isPublic, linkedMethod.arguments, linkedMethod.throws⟩ := by decide +kernel
  obtain ⟨hm, hc⟩ := printed_members_read_back hp (.element hlex) hdot
  obtain ⟨d, hd⟩ := hc _ hconstructor "Stream" (by decide +kernel)
  exact ⟨hp, hlex, hdot, hmethod, by decide +kernel, hm _ hmethod, _, d, hconstructor, hd⟩

end ApiDoc
