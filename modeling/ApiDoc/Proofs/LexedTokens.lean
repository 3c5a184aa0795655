import ApiDoc.Proofs.Results
import ApiDoc.Proofs.Words
import ApiDoc.Token.Markup

/-!
# The tokens that lexing gives

Whatever is lexed, a plain text or an element with links, its words have no blanks and a bracket
only in front, and its references are made of name characters and dots (`Lexed.form`).  The text of
every token is trimmed, not empty and without non-breaking spaces (`Lexed.isTokenText`).  Both follow
the lexer through the tree by way of a `LexInvariant`.
-/

namespace ApiDoc

/-- What the lexer guarantees of a token. -/
def Token.HasForm : Token → Prop
  | .word w => (∀ c ∈ w.toList, Text.isBlank c = false) ∧ '[' ∉ w.toList.tail
  | .ref q => ∀ c ∈ q.toList, c = '.' ∨ Text.isNameChar c = true
  | .literal _ => True

/-- The token lists of plain texts and of elements. -/
inductive Lexed : List Token → Prop
  | text (s : String) : Lexed (tokenize s)
  | element {package : String} {e : Html.Node} {ts : List Token}
    (h : lexElement package e = .ok ts) : Lexed ts

/-! ## Text -/

theorem wordTokens_form (cs : List Char) : ∀ t ∈ wordTokens cs, t.HasForm := by
  intro t ht
  obtain ⟨w, hw, rfl⟩ := List.mem_map.mp ht
  show (∀ c ∈ (String.ofList w).toList, _) ∧ _ ∉ (String.ofList w).toList.tail
  rw [String.toList_ofList]
  exact ⟨(Text.infix_of_mem_words hw).2, not_mem_tail_of_mem_words hw⟩

theorem lexText_form (state : LexState) (cs : List Char) :
    ∀ t ∈ (lexText state cs).1, t.HasForm := by
  have hequals : (Token.word "=").HasForm := by
    show (∀ c ∈ ['='], Text.isBlank c = false) ∧ '[' ∉ ['='].tail
    exact ⟨List.forall_mem_singleton.mpr rfl, List.not_mem_nil⟩
  intro t ht
  cases state with
  | some literal => cases ht
  | none =>
    unfold lexText at ht
    cases hcut : Text.cutAt? '=' (plainSpaces cs) with
    | none =>
      simp only [hcut] at ht
      exact wordTokens_form _ t ht
    | some p =>
      simp only [hcut, List.mem_append, List.mem_singleton] at ht
      rcases ht with ht | rfl
      · exact wordTokens_form _ t ht
      · exact hequals

theorem literalTokens_form (state : LexState) : ∀ t ∈ literalTokens state, t.HasForm := by
  intro t ht
  cases state with
  | none => cases ht
  | some literal =>
    simp only [literalTokens] at ht
    by_cases he : (Text.trim literal).isEmpty = true
    · rw [if_pos he] at ht
      cases ht
    · rw [if_neg he, List.mem_singleton] at ht
      rw [ht]
      exact trivial

/-! ## Links -/

theorem mem_intercalate {α : Type} {c d : α} : ∀ {parts : List (List α)},
    c ∈ [d].intercalate parts → c = d ∨ ∃ p ∈ parts, c ∈ p
  | [], h => by cases h
  | [p], h => .inr ⟨p, List.mem_cons_self, by rwa [List.intercalate_singleton] at h⟩
  | p :: q :: r, h => by
    rw [List.intercalate_cons_cons, List.mem_append, List.mem_append, List.mem_singleton] at h
    rcases h with (h | h) | h
    · exact .inr ⟨p, List.mem_cons_self, h⟩
    · exact .inl h
    · rcases mem_intercalate h with h | ⟨s, hs, h⟩
      · exact .inl h
      · exact .inr ⟨s, List.mem_cons_of_mem _ hs, h⟩

theorem intercalate_append_cons {α : Type} (d : α) (parts : List (List α)) (x : List α)
    (more : List (List α)) :
    [d].intercalate (parts ++ x :: more) =
      parts.flatMap (· ++ [d]) ++ [d].intercalate (x :: more) := by
  induction parts with
  | nil => rfl
  | cons p r ih =>
    rw [List.cons_append, List.intercalate_cons_of_ne_nil (by simp), ih]
    simp

/-- The parts of a name are nonempty and of name characters. -/
theorem parts_of_nameParts? {path : FileUrl.Segments} {parts : List (List Char)}
    (h : nameParts? path = some parts) :
    parts ≠ [] ∧ ∀ p ∈ parts, p ≠ [] ∧ ∀ c ∈ p, Text.isNameChar c = true := by
  simp only [nameParts?, Option.bind_eq_bind, Option.bind_eq_some_iff] at h
  obtain ⟨last, -, stem, -, h⟩ := h
  split at h
  · next hall =>
    cases h
    refine ⟨by simp, fun p hp => ?_⟩
    have := List.all_eq_true.mp hall p hp
    simpa only [Bool.and_eq_true, Bool.not_eq_true', List.isEmpty_eq_false_iff,
      List.all_eq_true] using this
  · cases h

/-- A link leads to parts with dots between them. -/
theorem resolveLink_eq_ok {package href q : String} (h : resolveLink package href = .ok q) :
    ∃ parts, q.toList = ['.'].intercalate parts ∧ parts ≠ [] ∧
      ∀ p ∈ parts, p ≠ [] ∧ ∀ c ∈ p, Text.isNameChar c = true := by
  unfold resolveLink at h
  split at h
  · next parts hparts =>
    cases h
    obtain ⟨path, -, hparts⟩ := Option.bind_eq_some_iff.mp hparts
    exact ⟨parts, String.toList_ofList, parts_of_nameParts? hparts⟩
  · cases h

theorem resolveLink_form {package href q : String} (h : resolveLink package href = .ok q) :
    (Token.ref q).HasForm := by
  obtain ⟨parts, hq, -, hparts⟩ := resolveLink_eq_ok h
  show ∀ c ∈ q.toList, _
  rw [hq]
  intro c hc
  rcases mem_intercalate hc with hc | ⟨p, hp, hc⟩
  · exact .inl hc
  · exact .inr ((hparts p hp).2 c hc)

/-! ## Elements -/

/-- What holds of every token the lexer gives, carried along by what holds of its states: it is
kept by a piece of text and holds of the literal at the end and of the target of a link. -/
structure LexInvariant (P : Token → Prop) (Q : LexState → Prop) : Prop where
  start : Q none
  text : ∀ {state} cs, Q state → (∀ t ∈ (lexText state cs).1, P t) ∧ Q (lexText state cs).2
  literal : ∀ {state}, Q state → ∀ t ∈ literalTokens state, P t
  link : ∀ {package href q}, resolveLink package href = .ok q → P (.ref q)

namespace LexInvariant

variable {P : Token → Prop} {Q : LexState → Prop}

theorem forall_tokenizeChars (inv : LexInvariant P Q) (cs : List Char) :
    ∀ t ∈ tokenizeChars cs, P t := by
  obtain ⟨htokens, hstate⟩ := inv.text cs inv.start
  intro t ht
  rcases List.mem_append.mp ht with ht | ht
  · exact htokens t ht
  · exact inv.literal hstate t ht

mutual

theorem forall_lexNode (inv : LexInvariant P Q) {package : String} {state : LexState}
    {p : List Token × LexState} (hq : Q state) (n : Html.Node)
    (h : lexNode package state n = .ok p) : (∀ t ∈ p.1, P t) ∧ Q p.2 := by
  cases n with
  | text content =>
    cases h
    exact inv.text _ hq
  | comment _ =>
    cases h
    exact ⟨by simp, hq⟩
  | fragment _ =>
    cases h
    exact ⟨by simp, hq⟩
  | element name attributes children =>
    rw [lexNode] at h
    by_cases hs : state.isSome = true
    · rw [if_pos hs] at h
      cases h
      exact inv.text _ hq
    · rw [if_neg hs] at h
      cases hhref : (Html.Node.element name attributes children).href? with
      | some href =>
        simp only [hhref] at h
        cases hlink : resolveLink package href with
        | error e =>
          rw [hlink] at h
          cases h
        | ok q =>
          rw [hlink] at h
          cases h
          exact ⟨List.forall_mem_singleton.mpr (inv.link hlink), inv.start⟩
      | none =>
        simp only [hhref] at h
        -- a child by child reading, or the tokens of the text as they are
        split at h
        · exact forall_lexNodes inv inv.start children h
        · cases h
          exact ⟨inv.forall_tokenizeChars _, inv.start⟩
termination_by structural n

theorem forall_lexNodes (inv : LexInvariant P Q) {package : String} {state : LexState}
    {p : List Token × LexState} (hq : Q state) (l : List Html.Node)
    (h : lexNodes package state l = .ok p) : (∀ t ∈ p.1, P t) ∧ Q p.2 := by
  cases l with
  | nil =>
    cases h
    exact ⟨by simp, hq⟩
  | cons n r =>
    simp only [lexNodes, Except.bind_eq_ok_iff, Except.pure_eq_ok_iff] at h
    obtain ⟨first, hn, more, hr, rfl⟩ := h
    obtain ⟨hfirst, hbetween⟩ := forall_lexNode inv hq n hn
    obtain ⟨hmore, hafter⟩ := forall_lexNodes inv hbetween r hr
    refine ⟨fun t ht => ?_, hafter⟩
    rcases List.mem_append.mp ht with ht | ht
    · exact hfirst t ht
    · exact hmore t ht
termination_by structural l

end

/-- The invariant reaches every token. -/
theorem forall_lexed (inv : LexInvariant P Q) {ts : List Token} (h : Lexed ts) : ∀ t ∈ ts, P t := by
  cases h with
  | text s => exact inv.forall_tokenizeChars _
  | element h =>
    simp only [lexElement, Except.bind_eq_ok_iff, Except.pure_eq_ok_iff] at h
    obtain ⟨p, hp, rfl⟩ := h
    obtain ⟨htokens, hstate⟩ := inv.forall_lexNodes inv.start _ hp
    intro t ht
    rcases List.mem_append.mp ht with ht | ht
    · exact htokens t ht
    · exact inv.literal hstate t ht

end LexInvariant

theorem Lexed.form {ts : List Token} (h : Lexed ts) : ∀ t ∈ ts, t.HasForm := by
  have inv : LexInvariant Token.HasForm fun _ => True :=
    { start := trivial
      text := fun cs _ => ⟨lexText_form _ cs, trivial⟩
      literal := fun _ => literalTokens_form _
      link := resolveLink_form }
  exact inv.forall_lexed h

/-! ## Texts of tokens -/

/-- A text that a token can have: not empty, trimmed, and with plain spaces. -/
structure IsTokenText (cs : List Char) : Prop where
  ne_nil : cs ≠ []
  trim_eq : Text.trim cs = cs
  plain : ∀ c ∈ cs, c ≠ '\u00A0'

theorem IsTokenText.of_not_blank {cs : List Char} (hne : cs ≠ [])
    (h : ∀ c ∈ cs, Text.isBlank c = false) : IsTokenText cs := by
  refine ⟨hne, Text.trim_of_forall h, ?_⟩
  rintro c hc rfl
  exact absurd (h _ hc) (by decide)

theorem isTokenText_wordTokens (cs : List Char) :
    ∀ t ∈ wordTokens cs, IsTokenText t.text.toList := by
  intro t ht
  obtain ⟨w, hw, rfl⟩ := List.mem_map.mp ht
  show IsTokenText (String.ofList w).toList
  rw [String.toList_ofList]
  exact .of_not_blank (Text.mem_words hw) (Text.infix_of_mem_words hw).2

/-- The literal so far has plain spaces only. -/
def LexState.IsPlain (state : LexState) : Prop := ∀ literal ∈ state, ∀ c ∈ literal, c ≠ '\u00A0'

theorem ne_of_mem_plainSpaces {cs : List Char} : ∀ c ∈ plainSpaces cs, c ≠ '\u00A0' := by
  intro c hc
  obtain ⟨d, -, rfl⟩ := List.mem_map.mp hc
  split
  · decide
  · assumption

theorem isTokenText_lexText {state : LexState} (cs : List Char) (h : state.IsPlain) :
    (∀ t ∈ (lexText state cs).1, IsTokenText t.text.toList) ∧ (lexText state cs).2.IsPlain := by
  cases state with
  | some literal =>
    refine ⟨by simp [lexText], ?_⟩
    intro l hl c hc
    cases hl
    rcases List.mem_append.mp hc with hc | hc
    · exact h literal rfl c hc
    · exact ne_of_mem_plainSpaces c hc
  | none =>
    unfold lexText
    cases hcut : Text.cutAt? '=' (plainSpaces cs) with
    | none => exact ⟨isTokenText_wordTokens _, by rintro l ⟨⟩⟩
    | some p =>
      obtain ⟨hlist, -⟩ := cutAt?_eq_some_iff.mp hcut
      have hequals : IsTokenText "=".toList := by
        refine .of_not_blank (by decide) fun c hc => ?_
        rw [List.mem_singleton.mp hc]
        rfl
      constructor
      · intro t ht
        rcases List.mem_append.mp ht with ht | ht
        · exact isTokenText_wordTokens _ t ht
        · rwa [List.mem_singleton.mp ht]
      · intro l hl c hc
        cases hl
        refine ne_of_mem_plainSpaces c (?_ : c ∈ plainSpaces cs)
        rw [hlist]
        simp [hc]

theorem isTokenText_literalTokens {state : LexState} (h : state.IsPlain) :
    ∀ t ∈ literalTokens state, IsTokenText t.text.toList := by
  intro t ht
  cases state with
  | none => cases ht
  | some literal =>
    simp only [literalTokens] at ht
    by_cases he : (Text.trim literal).isEmpty = true
    · rw [if_pos he] at ht
      cases ht
    · rw [if_neg he, List.mem_singleton] at ht
      subst ht
      show IsTokenText (String.ofList (Text.trim literal)).toList
      rw [String.toList_ofList]
      obtain ⟨a, b, hab, -, -⟩ := Text.exists_trim literal
      refine ⟨by simpa using he, Text.trim_trim _, fun c hc => h literal rfl c ?_⟩
      rw [hab]
      simp [hc]

/-- The target of a link has nonempty parts. -/
theorem isTokenText_resolveLink {package href q : String} (h : resolveLink package href = .ok q) :
    IsTokenText q.toList := by
  obtain ⟨parts, hq, hne, hparts⟩ := resolveLink_eq_ok h
  have hform := resolveLink_form h
  refine .of_not_blank ?_ ?_
  · rw [hq]
    cases parts with
    | nil => exact absurd rfl hne
    | cons p r =>
      have hp := (hparts p List.mem_cons_self).1
      cases r with
      | nil => rwa [List.intercalate_singleton]
      | cons s r =>
        rw [List.intercalate_cons_cons]
        simp
  · intro c hc
    rcases hform c hc with rfl | hc
    · rfl
    · exact Text.isBlank_of_isNameChar hc

/-- The text of a lexed token is trimmed and not empty, and its spaces are plain. -/
theorem Lexed.isTokenText {ts : List Token} (h : Lexed ts) :
    ∀ t ∈ ts, IsTokenText t.text.toList := by
  have inv : LexInvariant (fun t => IsTokenText t.text.toList) LexState.IsPlain :=
    { start := by rintro l ⟨⟩
      text := fun cs => isTokenText_lexText cs
      literal := isTokenText_literalTokens
      link := isTokenText_resolveLink }
  exact inv.forall_lexed h

end ApiDoc
