import ApiDoc.Proofs.OutermostLinks

/-!
# Inline markup

Without links, an element is lexed as its text is, wherever the text is cut into nested elements
between two tokens (`SeamsApart`), with one exception: an element in which nothing but the first `=`
stands is read as one token, and no literal begins behind it (`lexElement_eq_tokenize_iff`).
-/

namespace ApiDoc

/-! ## Blank texts -/

theorem not_mem_of_blank {cs : List Char} (h : ∀ c ∈ cs, Text.isBlank c = true) : '=' ∉ cs :=
  fun hc => absurd (h _ hc) (by decide)

theorem isBlank_plainSpaces_iff {cs : List Char} :
    (∀ c ∈ plainSpaces cs, Text.isBlank c = true) ↔ ∀ c ∈ cs, Text.isBlank c = true := by
  rw [← wordTokens_eq_nil_iff, wordTokens_plainSpaces, wordTokens_eq_nil_iff]

theorem literalTokens_of_blank {value : List Char} (h : ∀ c ∈ value, Text.isBlank c = true) :
    literalTokens (some (plainSpaces value)) = [] := by
  simp [literalTokens, Text.trim_eq_nil_iff.mpr (isBlank_plainSpaces_iff.mpr h)]

theorem literalTokens_of_not_blank {value : List Char}
    (h : ¬∀ c ∈ value, Text.isBlank c = true) :
    ∃ v, literalTokens (some (plainSpaces value)) = [.literal v] := by
  rw [← isBlank_plainSpaces_iff, ← Text.trim_eq_nil_iff] at h
  exact ⟨String.ofList (Text.trim (plainSpaces value)), by simp [literalTokens, h]⟩

/-! ## Seams -/

/-- The characters at which a word ends or begins on either side. -/
def SplitsWords (c : Char) : Prop := Text.isBlank c = true ∨ IsMark c ∨ c = '='

instance (c : Char) : Decidable (SplitsWords c) := inferInstanceAs (Decidable (_ ∨ _ ∨ _))

/-- Two texts that meet between two tokens: a character that splits words stands on one side, or a
bracket opens behind. -/
def IsSeam (a b : List Char) : Prop :=
  ∀ c ∈ a.getLast?, ∀ d ∈ b.head?, SplitsWords c ∨ SplitsWords d ∨ d = '['

instance (a b : List Char) : Decidable (IsSeam a b) :=
  decidable_of_iff (a.getLast?.all fun c => b.head?.all fun d =>
    SplitsWords c ∨ SplitsWords d ∨ d = '[') (by simp [IsSeam, Option.all_eq_true])

/-- Wherever two of the pieces meet in front of the first `=`, they meet between two tokens. -/
def SeamsApart (pieces : List (List Char)) : Prop :=
  ∀ before after, pieces = before ++ after → '=' ∉ before.flatten →
    IsSeam before.flatten after.flatten

theorem seamsApart_iff {pieces : List (List Char)} : SeamsApart pieces ↔
    ∀ k < pieces.length, '=' ∉ (pieces.take k).flatten →
      IsSeam (pieces.take k).flatten (pieces.drop k).flatten := by
  constructor
  · intro h k _
    exact h _ _ (List.take_append_drop k pieces).symm
  · rintro h before after rfl hequals
    cases after with
    | nil =>
      rintro c - d ⟨⟩
    | cons piece after =>
      have hk := h before.length (by simp)
      rw [List.take_left, List.drop_left] at hk
      exact hk hequals

instance (pieces : List (List Char)) : Decidable (SeamsApart pieces) :=
  decidable_of_iff _ seamsApart_iff.symm

section
variable {a b c : List Char}

theorem IsSeam.of_append_right (h : IsSeam a (b ++ c)) : IsSeam a b := by
  cases b with
  | nil => rintro x - y ⟨⟩
  | cons y b => exact h

theorem IsSeam.of_append_left (h : IsSeam (a ++ b) c) : IsSeam b c := by
  intro x hx
  exact h x (by rw [List.getLast?_append, hx]; rfl)

/-- Words can be read on either side of a seam. -/
theorem wordTokens_append_of_isSeam (h : IsSeam a b) (ha : '=' ∉ a) (hb : '=' ∉ b) :
    wordTokens (a ++ b) = wordTokens a ++ wordTokens b := by
  cases b with
  | nil => rw [wordTokens_nil, List.append_nil, List.append_nil]
  | cons d b =>
    rcases List.eq_nil_or_concat a with rfl | ⟨a, c, rfl⟩
    · rw [wordTokens_nil, List.nil_append, List.nil_append]
    rw [List.concat_eq_append] at h ha ⊢
    rcases h c (by simp) d rfl with (hc | hc | rfl) | (hd | hd | rfl) | rfl
    · rw [List.append_assoc, List.singleton_append, wordTokens_append_blank hc,
        wordTokens_append_blank hc a [], wordTokens_nil, List.append_nil]
    · rw [List.append_assoc, List.singleton_append, wordTokens_append_mark hc,
        wordTokens_append_mark hc a [], wordTokens_nil, List.append_assoc, List.singleton_append]
    · exact absurd (List.mem_append_right a (List.mem_singleton_self '=')) ha
    · exact wordTokens_append_of_head _ fun x hx => by cases hx; exact hd
    · have hmark := wordTokens_append_mark hd [] b
      rw [List.nil_append, wordTokens_nil, List.nil_append] at hmark
      rw [wordTokens_append_mark hd, hmark]
    · exact absurd List.mem_cons_self hb
    · exact wordTokens_append_bracket _ b

/-- A text can be read on either side of a seam. -/
theorem lexText_append (h : IsSeam a b) (ha : '=' ∉ a) :
    lexText none (a ++ b) = (wordTokens a ++ (lexText none b).1, (lexText none b).2) := by
  by_cases hb : '=' ∈ b
  · obtain ⟨declared, value, rfl, hdeclared⟩ := List.eq_append_cons_of_mem hb
    rw [lexText_append_equals hdeclared, ← List.append_assoc,
      lexText_append_equals (List.not_mem_append ha hdeclared),
      wordTokens_append_of_isSeam h.of_append_right ha hdeclared, List.append_assoc]
  · rw [lexText_of_not_mem hb, lexText_of_not_mem (List.not_mem_append ha hb),
      wordTokens_append_of_isSeam h ha hb]

end

namespace SeamsApart

variable {pieces more : List (List Char)}

theorem left (h : SeamsApart (pieces ++ more)) : SeamsApart pieces := by
  rintro before after rfl hequals
  have hseam := h before (after ++ more) (List.append_assoc _ _ _) hequals
  rw [List.flatten_append] at hseam
  exact hseam.of_append_right

theorem right (h : SeamsApart (pieces ++ more)) (hequals : '=' ∉ pieces.flatten) :
    SeamsApart more := by
  rintro before after rfl hbefore
  have hseam := h (pieces ++ before) after (List.append_assoc _ _ _).symm
  rw [List.flatten_append, List.mem_append, not_or] at hseam
  exact (hseam ⟨hequals, hbefore⟩).of_append_left

theorem isSeam (h : SeamsApart (pieces ++ more)) (hequals : '=' ∉ pieces.flatten) :
    IsSeam pieces.flatten more.flatten :=
  h pieces more rfl hequals

end SeamsApart

namespace Html.Node

/-! ## Text in nested elements -/

mutual

/-- Whether all text of a node lies in nested elements. -/
def isInline : Node → Bool
  | .element _ _ children => areInline children
  | .text _ => true
  | .comment _ => true
  | .fragment children => (textAll children).isEmpty
termination_by structural n => n

/-- Whether all text of a list of nodes lies in nested elements. -/
def areInline : List Node → Bool
  | [] => true
  | n :: r => n.isInline && areInline r
termination_by structural l => l

end

mutual

/-- The pieces into which the elements cut the text of a node. -/
def pieces : Node → List (List Char)
  | .element _ _ children => piecesAll children
  | .text content => [content.toList]
  | .comment _ => []
  | .fragment _ => []
termination_by structural n => n

/-- The pieces into which the elements cut the text of a list of nodes. -/
def piecesAll : List Node → List (List Char)
  | [] => []
  | n :: r => n.pieces ++ piecesAll r
termination_by structural l => l

end

mutual

/-- Whether the first `=` stands alone, blanks aside, in an element. -/
def isolatesEquals : Node → Bool
  | .element _ _ children => Text.trim (textAll children) == ['='] || isolatesEqualsAll children
  | .text _ => false
  | .comment _ => false
  | .fragment _ => false
termination_by structural n => n

/-- Whether the first `=` of the nodes stands alone, blanks aside, in an element. -/
def isolatesEqualsAll : List Node → Bool
  | [] => false
  | n :: r => n.isolatesEquals || (!n.textContent.contains '=' && isolatesEqualsAll r)
termination_by structural l => l

end

mutual

theorem flatten_pieces : ∀ {n : Node}, n.isInline = true → n.pieces.flatten = n.textContent
  | .element _ _ _, h => flatten_piecesAll h
  | .text _, _ => List.flatten_singleton
  | .comment _, _ => rfl
  | .fragment _, h => (List.isEmpty_iff.mp h).symm

theorem flatten_piecesAll : ∀ {l : List Node}, areInline l = true → (piecesAll l).flatten = textAll l
  | [], _ => rfl
  | n :: r, h => by
    rw [areInline, Bool.and_eq_true] at h
    rw [piecesAll, List.flatten_append, flatten_pieces h.1, flatten_piecesAll h.2, textAll]

end

/-- In front of the first `=` a node ends at a seam, and so do the nodes behind it. -/
theorem seams_cons {n : Node} {r : List Node} (hinline : areInline (n :: r) = true)
    (hseams : SeamsApart (piecesAll (n :: r))) (hequals : '=' ∉ n.textContent) :
    IsSeam n.textContent (textAll r) ∧ SeamsApart (piecesAll r) := by
  rw [areInline, Bool.and_eq_true] at hinline
  rw [← flatten_pieces hinline.1] at hequals
  refine ⟨?_, hseams.right hequals⟩
  have hseam := hseams.isSeam hequals
  rwa [flatten_pieces hinline.1, flatten_piecesAll hinline.2] at hseam

end Html.Node

section
open Html.Node

variable {package : String}

theorem lexNode_some {literal : List Char} {n : Html.Node} (h : n.isInline = true) :
    lexNode package (some literal) n = .ok ([], some (literal ++ plainSpaces n.textContent)) := by
  cases n with
  | element name attributes children => rfl
  | text content => rfl
  | comment content => simp [lexNode, Html.Node.textContent, plainSpaces]
  | fragment children =>
    have htext : textAll children = [] := List.isEmpty_iff.mp h
    simp [lexNode, Html.Node.textContent, htext, plainSpaces]

theorem lexNodes_cons {state : LexState} {n : Html.Node} {r : List Html.Node}
    {p q : List Token × LexState} (hn : lexNode package state n = .ok p)
    (hr : lexNodes package p.2 r = .ok q) :
    lexNodes package state (n :: r) = .ok (p.1 ++ q.1, q.2) := by
  rw [lexNodes, hn]
  show (lexNodes package p.2 r >>= _) = _
  rw [hr]
  rfl

/-- Once a literal has begun, all further text belongs to it. -/
theorem lexNodes_some {literal : List Char} {l : List Html.Node} (h : areInline l = true) :
    lexNodes package (some literal) l = .ok ([], some (literal ++ plainSpaces (textAll l))) := by
  induction l generalizing literal with
  | nil => simp [lexNodes, textAll, plainSpaces]
  | cons n r ih =>
    rw [areInline, Bool.and_eq_true] at h
    rw [lexNodes_cons (lexNode_some h.1) (ih h.2), textAll, plainSpaces_append, List.append_assoc]
    rfl

theorem lexNode_of_not_containsLink {name : String} {attributes : List (String × String)}
    {children : List Html.Node} (h : (Html.Node.element name attributes children).containsLink = false) :
    lexNode package none (.element name attributes children) =
      if 1 < (tokenizeChars (textAll children)).length then lexNodes package none children
      else .ok (tokenizeChars (textAll children), none) := by
  rw [containsLink_element, Bool.or_eq_false_iff, Option.isSome_eq_false_iff,
    Option.isNone_iff_eq_none] at h
  rw [lexNode_of_href?_eq_none h.1, h.2]
  simp

/-! ## An `=` that stands alone -/

theorem tokenizeChars_of_isolated {a b : List Char} (ha : ∀ c ∈ a, Text.isBlank c = true)
    (hb : ∀ c ∈ b, Text.isBlank c = true) : tokenizeChars (a ++ '=' :: b) = [.word "="] := by
  have hequals := not_mem_of_blank ha
  rw [tokenizeChars_append_equals hequals, wordTokens_of_blank ha, literalTokens_of_blank hb]
  rfl

/-- A text with an `=` in it that is one token has nothing else in it. -/
theorem blank_of_length_tokenizeChars {a b : List Char} (ha : '=' ∉ a)
    (h : ¬1 < (tokenizeChars (a ++ '=' :: b)).length) :
    (∀ c ∈ a, Text.isBlank c = true) ∧ ∀ c ∈ b, Text.isBlank c = true := by
  rw [tokenizeChars_append_equals ha, List.length_append, List.length_cons] at h
  have hwords : wordTokens a = [] := List.length_eq_zero_iff.mp (by omega)
  have hliteral : literalTokens (some (plainSpaces b)) = [] := List.length_eq_zero_iff.mp (by omega)
  refine ⟨wordTokens_eq_nil_iff.mp hwords, ?_⟩
  by_contra hb
  obtain ⟨v, hv⟩ := literalTokens_of_not_blank hb
  rw [hv] at hliteral
  cases hliteral

theorem lexText_none_nil : lexText none [] = ([], none) := by
  rw [lexText_of_not_mem List.not_mem_nil, wordTokens_nil]

/-- What follows the first `=` belongs to the literal. -/
theorem lexText_append_of_mem {a : List Char} (h : '=' ∈ a) (b : List Char) :
    ∃ literal, lexText none a = ((lexText none a).1, some literal) ∧
      lexText none (a ++ b) = ((lexText none a).1, some (literal ++ plainSpaces b)) := by
  obtain ⟨declared, value, rfl, hdeclared⟩ := List.eq_append_cons_of_mem h
  refine ⟨plainSpaces value, by rw [lexText_append_equals hdeclared], ?_⟩
  rw [List.append_assoc, List.cons_append, lexText_append_equals hdeclared,
    lexText_append_equals hdeclared, plainSpaces_append]

mutual

/-- A node is read as its text, whatever its elements are, if no `=` stands alone. -/
theorem lexNode_of_not_isolatesEquals : ∀ {n : Html.Node}, n.isInline = true →
    n.containsLink = false → SeamsApart n.pieces → n.isolatesEquals = false →
    lexNode package none n = .ok (lexText none n.textContent)
  | .text _, _, _, _, _ => rfl
  | .comment _, _, _, _, _ => congrArg Except.ok lexText_none_nil.symm
  | .fragment children, hinline, _, _, _ => by
    have htext : textAll children = [] := List.isEmpty_iff.mp hinline
    rw [Html.Node.textContent, htext, lexText_none_nil]
    rfl
  | .element name attributes children, hinline, hlink, hseams, hequals => by
    have hchildren := not_containLink_children hlink
    rw [isolatesEquals, Bool.or_eq_false_iff, beq_eq_false_iff_ne] at hequals
    obtain ⟨halone, hequals⟩ := hequals
    rw [lexNode_of_not_containsLink hlink, Html.Node.textContent]
    split
    · exact lexNodes_of_not_isolatesEquals hinline hchildren hseams hequals
    · next hflat =>
      -- one token with an `=` in it is an `=` that stands alone
      have hnot : '=' ∉ textAll children := by
        intro hmem
        obtain ⟨a, b, htext, ha⟩ := List.eq_append_cons_of_mem hmem
        rw [htext] at hflat halone
        obtain ⟨hblank, hblank'⟩ := blank_of_length_tokenizeChars ha hflat
        exact halone (Text.trim_append_cons (by decide) hblank hblank')
      rw [tokenizeChars_of_not_mem hnot, lexText_of_not_mem hnot]

theorem lexNodes_of_not_isolatesEquals : ∀ {l : List Html.Node}, areInline l = true →
    containLink l = false → SeamsApart (piecesAll l) → isolatesEqualsAll l = false →
    lexNodes package none l = .ok (lexText none (textAll l))
  | [], _, _, _, _ => congrArg Except.ok lexText_none_nil.symm
  | n :: r, hinline, hlink, hseams, hequals => by
    have hcons := seams_cons hinline hseams
    rw [areInline, Bool.and_eq_true] at hinline
    rw [containLink_cons, Bool.or_eq_false_iff] at hlink
    rw [isolatesEqualsAll, Bool.or_eq_false_iff] at hequals
    have hn := lexNode_of_not_isolatesEquals hinline.1 hlink.1 hseams.left hequals.1
    by_cases hmem : '=' ∈ n.textContent
    · obtain ⟨literal, hstate, happend⟩ := lexText_append_of_mem hmem (textAll r)
      rw [hstate] at hn
      rw [lexNodes_cons hn (lexNodes_some hinline.2), textAll, happend, List.append_nil]
    · obtain ⟨hseam, hseams⟩ := hcons hmem
      have hequals : isolatesEqualsAll r = false := by simpa [hmem] using hequals.2
      have hr := lexNodes_of_not_isolatesEquals hinline.2 hlink.2 hseams hequals
      rw [lexText_of_not_mem hmem] at hn
      rw [lexNodes_cons hn hr, textAll, lexText_append hseam hmem]

end

/-! ## What stands behind it -/

/-- The reading of a text starts with a word, unless the text is blank. -/
inductive Opens (cs : List Char) : List Token → LexState → Prop
  | blank (h : ∀ c ∈ cs, Text.isBlank c = true) : Opens cs [] none
  | word {w : String} {more : List Token} {state : LexState}
    (h : ¬∀ c ∈ cs, Text.isBlank c = true) : Opens cs (.word w :: more) state

theorem opens_of_wordTokens {cs declared : List Char} {more : List Token} {state : LexState}
    (h : ¬∀ c ∈ cs, Text.isBlank c = true) (hdeclared : wordTokens declared ≠ []) :
    Opens cs (wordTokens declared ++ more) state := by
  rw [wordTokens] at hdeclared ⊢
  cases hwords : Text.words (spreadMarks declared) with
  | nil =>
    rw [hwords] at hdeclared
    exact absurd rfl hdeclared
  | cons w ws => exact .word h

theorem opens_lexText (cs : List Char) : Opens cs (lexText none cs).1 (lexText none cs).2 := by
  by_cases hblank : ∀ c ∈ cs, Text.isBlank c = true
  · have hequals := not_mem_of_blank hblank
    rw [lexText_of_not_mem hequals, wordTokens_of_blank hblank]
    exact .blank hblank
  by_cases hequals : '=' ∈ cs
  · obtain ⟨declared, value, rfl, hdeclared⟩ := List.eq_append_cons_of_mem hequals
    rw [lexText_append_equals hdeclared]
    by_cases hwords : wordTokens declared = []
    · rw [hwords]
      exact .word hblank
    · exact opens_of_wordTokens hblank hwords
  · rw [lexText_of_not_mem hequals, ← List.append_nil (wordTokens cs)]
    exact opens_of_wordTokens hblank (mt wordTokens_eq_nil_iff.mp hblank)

namespace Opens

variable {cs cs' : List Char} {ts ts' : List Token} {state state' : LexState}

theorem append (h : Opens cs ts state) (h' : state = none → Opens cs' ts' state') :
    Opens (cs ++ cs') (ts ++ ts') state' := by
  cases h with
  | blank hcs =>
    cases h' rfl with
    | blank hcs' => exact .blank (List.forall_mem_append.mpr ⟨hcs, hcs'⟩)
    | word hcs' => exact .word fun hall => hcs' (List.forall_mem_append.mp hall).2
  | word hcs => exact .word fun hall => hcs (List.forall_mem_append.mp hall).1

/-- Whatever comes next, a literal or more words. -/
theorem followed (h : Opens cs ts state) {l : List Html.Node} (hl : areInline l = true)
    (hopens : ∃ q, lexNodes package none l = .ok q ∧ Opens (textAll l) q.1 q.2) :
    ∃ q, lexNodes package state l = .ok q ∧ Opens (cs ++ textAll l) (ts ++ q.1) q.2 := by
  cases state with
  | none =>
    obtain ⟨q, hq, hq'⟩ := hopens
    exact ⟨q, hq, h.append fun _ => hq'⟩
  | some literal => exact ⟨_, lexNodes_some hl, h.append nofun⟩

end Opens

theorem opens_tokenizeChars (cs : List Char) : Opens cs (tokenizeChars cs) none := by
  have h : Opens (cs ++ []) (tokenizeChars cs) none := (opens_lexText cs).append fun hstate => by
    rw [hstate]
    exact .blank (List.forall_mem_nil _)
  rwa [List.append_nil] at h

mutual

theorem opens_lexNode : ∀ {n : Html.Node}, n.isInline = true → n.containsLink = false →
    ∃ p, lexNode package none n = .ok p ∧ Opens n.textContent p.1 p.2
  | .text _, _, _ => ⟨_, rfl, opens_lexText _⟩
  | .comment _, _, _ => ⟨_, rfl, .blank (List.forall_mem_nil _)⟩
  | .fragment children, hinline, _ => by
    have htext : textAll children = [] := List.isEmpty_iff.mp hinline
    rw [Html.Node.textContent, htext]
    exact ⟨_, rfl, .blank (List.forall_mem_nil _)⟩
  | .element name attributes children, hinline, hlink => by
    rw [lexNode_of_not_containsLink hlink]
    split
    · exact opens_lexNodes hinline (not_containLink_children hlink)
    · exact ⟨_, rfl, opens_tokenizeChars _⟩

theorem opens_lexNodes : ∀ {l : List Html.Node}, areInline l = true → containLink l = false →
    ∃ p, lexNodes package none l = .ok p ∧ Opens (textAll l) p.1 p.2
  | [], _, _ => ⟨_, rfl, .blank (List.forall_mem_nil _)⟩
  | n :: r, hinline, hlink => by
    rw [areInline, Bool.and_eq_true] at hinline
    rw [containLink_cons, Bool.or_eq_false_iff] at hlink
    obtain ⟨p, hp, hopens⟩ := opens_lexNode hinline.1 hlink.1
    obtain ⟨q, hq, hopens'⟩ := hopens.followed hinline.2 (opens_lexNodes hinline.2 hlink.2)
    exact ⟨_, lexNodes_cons hp hq, hopens'⟩

end

/-- The reading of a text with an `=` in it in which no literal begins behind the `=`. -/
inductive MissesLiteral : List Char → List Token × LexState → Prop
  | mk {before value : List Char} {more : List Token} {state : LexState} (hbefore : '=' ∉ before)
    (hvalue : Opens value more state) :
    MissesLiteral (before ++ '=' :: value) (wordTokens before ++ .word "=" :: more, state)

namespace MissesLiteral

variable {a b : List Char} {p : List Token × LexState}

theorem of_isolated (ha : ∀ c ∈ a, Text.isBlank c = true) (hb : ∀ c ∈ b, Text.isBlank c = true) :
    MissesLiteral (a ++ '=' :: b) ([.word "="], none) := by
  have hequals := not_mem_of_blank ha
  have h := mk hequals (.blank hb)
  rwa [wordTokens_of_blank ha] at h

theorem append_left (h : MissesLiteral b p) (hseam : IsSeam a b) (ha : '=' ∉ a) :
    MissesLiteral (a ++ b) (wordTokens a ++ p.1, p.2) := by
  cases h with
  | @mk before value more state hbefore hvalue =>
    have hwords := wordTokens_append_of_isSeam hseam.of_append_right ha hbefore
    have h := mk (List.not_mem_append ha hbefore) hvalue
    rwa [hwords, List.append_assoc, List.append_assoc] at h

end MissesLiteral

mutual

/-- Behind an `=` that stands alone no literal begins. -/
theorem lexNode_of_isolatesEquals : ∀ {n : Html.Node}, n.isInline = true →
    n.containsLink = false → SeamsApart n.pieces → n.isolatesEquals = true →
    ∃ p, lexNode package none n = .ok p ∧ MissesLiteral n.textContent p
  | .text _, _, _, _, hequals => nomatch hequals
  | .comment _, _, _, _, hequals => nomatch hequals
  | .fragment _, _, _, _, hequals => nomatch hequals
  | .element name attributes children, hinline, hlink, hseams, hequals => by
    have hchildren := not_containLink_children hlink
    rw [lexNode_of_not_containsLink hlink, Html.Node.textContent]
    rw [isolatesEquals, Bool.or_eq_true, beq_iff_eq] at hequals
    by_cases halone : Text.trim (textAll children) = ['=']
    · obtain ⟨a, b, htext, ha, hb⟩ := Text.exists_trim (textAll children)
      rw [halone, List.singleton_append] at htext
      rw [htext, tokenizeChars_of_isolated ha hb]
      exact ⟨_, rfl, .of_isolated ha hb⟩
    obtain ⟨p, hp, hmisses⟩ :=
      lexNodes_of_isolatesEquals hinline hchildren hseams (hequals.resolve_left halone)
    split
    · exact ⟨p, hp, hmisses⟩
    · next hflat =>
      generalize textAll children = text at hmisses hflat halone ⊢
      obtain ⟨hbefore, hvalue⟩ := hmisses
      obtain ⟨ha, hb⟩ := blank_of_length_tokenizeChars hbefore hflat
      exact absurd (Text.trim_append_cons (by decide) ha hb) halone

theorem lexNodes_of_isolatesEquals : ∀ {l : List Html.Node}, areInline l = true →
    containLink l = false → SeamsApart (piecesAll l) → isolatesEqualsAll l = true →
    ∃ p, lexNodes package none l = .ok p ∧ MissesLiteral (textAll l) p
  | [], _, _, _, hequals => nomatch hequals
  | n :: r, hinline, hlink, hseams, hequals => by
    have hcons := seams_cons hinline hseams
    rw [areInline, Bool.and_eq_true] at hinline
    rw [containLink_cons, Bool.or_eq_false_iff] at hlink
    rw [isolatesEqualsAll, Bool.or_eq_true, Bool.and_eq_true, Bool.not_eq_true'] at hequals
    by_cases hn : n.isolatesEquals = true
    · obtain ⟨p, hp, hmisses⟩ := lexNode_of_isolatesEquals hinline.1 hlink.1 hseams.left hn
      rw [textAll]
      generalize n.textContent = text at hmisses
      obtain ⟨hbefore, hvalue⟩ := hmisses
      obtain ⟨q, hq, hvalue'⟩ := hvalue.followed hinline.2 (opens_lexNodes hinline.2 hlink.2)
      refine ⟨_, lexNodes_cons hp hq, ?_⟩
      simpa using MissesLiteral.mk hbefore hvalue'
    · obtain ⟨hmem, hequals⟩ := hequals.resolve_left hn
      have hmem : '=' ∉ n.textContent := by simpa using hmem
      have hfirst : lexNode package none n = .ok (lexText none n.textContent) :=
        lexNode_of_not_isolatesEquals hinline.1 hlink.1 hseams.left (Bool.eq_false_iff.mpr hn)
      rw [lexText_of_not_mem hmem] at hfirst
      obtain ⟨hseam, hseams⟩ := hcons hmem
      obtain ⟨q, hq, hmisses⟩ := lexNodes_of_isolatesEquals hinline.2 hlink.2 hseams hequals
      exact ⟨_, lexNodes_cons hfirst hq, hmisses.append_left hseam hmem⟩

end

/-! ## Elements -/

theorem literal_not_mem_wordTokens (cs : List Char) (v : String) :
    Token.literal v ∉ wordTokens cs := by
  intro h
  obtain ⟨w, -, hw⟩ := List.mem_map.mp h
  cases hw

/-- A literal that is missed makes a difference exactly if there is one. -/
theorem MissesLiteral.eq_tokenizeChars_iff {cs : List Char} {p : List Token × LexState}
    (h : MissesLiteral cs p) : p.1 ++ literalTokens p.2 = tokenizeChars cs ↔
      ¬∃ v, Token.literal v ∈ tokenizeChars cs := by
  obtain ⟨hbefore, hvalue⟩ := h
  rw [tokenizeChars_append_equals hbefore, List.append_assoc, List.cons_append,
    List.append_cancel_left_eq, List.cons_inj_right]
  cases hvalue with
  | blank hblank =>
    rw [literalTokens_of_blank hblank]
    simp [literalTokens, literal_not_mem_wordTokens]
  | word hblank =>
    obtain ⟨v, hv⟩ := literalTokens_of_not_blank hblank
    rw [hv]
    simp

/-- Let the nodes of an element without links meet between two tokens in front of the first `=`.  Then
the element is lexed as its text is, unless that `=` stands alone in an element and there is a
literal behind it, which is then read as words. -/
theorem lexElement_eq_tokenize_iff {e : Html.Node} (he : e.isElement = true)
    (hinline : areInline e.children = true) (hlink : containLink e.children = false)
    (hseams : SeamsApart (piecesAll e.children)) :
    ∃ ts, lexElement package e = .ok ts ∧ (ts = tokenizeChars e.textContent ↔
      ¬(isolatesEqualsAll e.children = true ∧
        ∃ v, Token.literal v ∈ tokenizeChars e.textContent)) := by
  have htext : e.textContent = textAll e.children := by
    cases e with
    | element name attributes children => rfl
    | text content => cases he
    | comment content => cases he
    | fragment children => cases he
  have hlex : ∀ p, lexNodes package none e.children = .ok p →
      lexElement package e = .ok (p.1 ++ literalTokens p.2) := by
    intro p hp
    rw [lexElement, hp]
    rfl
  rw [htext]
  by_cases hequals : isolatesEqualsAll e.children = true
  · obtain ⟨p, hp, hmisses⟩ := lexNodes_of_isolatesEquals hinline hlink hseams hequals
    refine ⟨_, hlex p hp, ?_⟩
    rw [hmisses.eq_tokenizeChars_iff, hequals]
    simp only [true_and]
  · have hp : lexNodes package none e.children = .ok (lexText none (textAll e.children)) :=
      lexNodes_of_not_isolatesEquals hinline hlink hseams (Bool.eq_false_iff.mpr hequals)
    exact ⟨_, hlex _ hp, iff_of_true rfl fun h => hequals h.1⟩

/-- A field of which the literal begins inside of inline markup and goes on behind it. -/
def markedValue : Html.Node :=
  .element "pre" []
    [.element "code" [] [.text "public ", .element "i" [] [.text "int"], .text "[] "],
      .text "x\u00A0",
      .element "b" [] [.text "= ", .element "u" [] [.text "of(1,"]],
      .text " b=2)"]

theorem lexElement_eq_tokenize_of_markedValue :
    areInline markedValue.children = true ∧ containLink markedValue.children = false ∧
      SeamsApart (piecesAll markedValue.children) ∧
      lexElement "p" markedValue = .ok [.word "public", .word "int", .word "[]", .word "x",
        .word "=", .literal "of(1, b=2)"] := by
  have hinline : areInline markedValue.children = true := by decide +kernel
  have hlink : containLink markedValue.children = false := by decide +kernel
  have hseams : SeamsApart (piecesAll markedValue.children) := by decide +kernel
  have hequals : isolatesEqualsAll markedValue.children = false := by decide +kernel
  have htokens : tokenizeChars markedValue.textContent = [.word "public", .word "int", .word "[]",
      .word "x", .word "=", .literal "of(1, b=2)"] := by decide +kernel
  obtain ⟨ts, hts, hiff⟩ := lexElement_eq_tokenize_iff rfl hinline hlink hseams
  have hsame := hiff.mpr fun h => absurd h.1 (Bool.eq_false_iff.mp hequals)
  rw [hsame, htokens] at hts
  exact ⟨hinline, hlink, hseams, hts⟩

/-- A field with its `=` in bold. -/
def isolatedEquals : Html.Node :=
  .element "pre" []
    [.text "public static final String X ", .element "b" [] [.text "="], .text " \"a b\""]

/-- The nodes meet at blanks, but the value is read as words. -/
theorem lexElement_isolatedEquals :
    areInline isolatedEquals.children = true ∧ containLink isolatedEquals.children = false ∧
      SeamsApart (piecesAll isolatedEquals.children) ∧
      lexElement "p" isolatedEquals = .ok [.word "public", .word "static", .word "final",
        .word "String", .word "X", .word "=", .word "\"a", .word "b\""] ∧
      tokenizeChars isolatedEquals.textContent = [.word "public", .word "static", .word "final",
        .word "String", .word "X", .word "=", .literal "\"a b\""] := by
  decide +kernel

end

end ApiDoc
