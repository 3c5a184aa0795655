import ApiDoc.Proofs.InlineMarkup

/-!
# Lexemes

How the front of a declaration is cut into words, said without the cutting: `Cuts cs ws` goes through
the text `cs` from left to right, passes over its blanks and takes off one lexeme after the other,
each up to a place where a token ends.  The tokens of a text are the lexemes of what stands in front
of the first `=`, then the `=` and the literal behind it:

    wordTokens cs = ws.map (fun w => .word (String.ofList w)) ↔ Cuts cs ws      (no '=' in cs)
    Cuts cs ws → ws.flatten = cs.filter (fun c => !Text.isBlank c)
    Cuts ([' '].intercalate ws) ws                                           (ws lexemes)

So only blanks are lost, and the tokens with spaces between them are cut into the same tokens
(`tokenize_lossless`).
-/

namespace ApiDoc

/-! ## Cutting -/

/-- A word of a declaration in front of its literal: not empty, without blanks, a mark only alone and
a bracket only in front. -/
structure IsLexeme (w : List Char) : Prop where
  ne_nil : w ≠ []
  not_blank : ∀ c ∈ w, Text.isBlank c = false
  mark_alone : ∀ c ∈ w, IsMark c → w = [c]
  bracket_first : '[' ∉ w.tail
  not_equals : '=' ∉ w

/-- A text and its lexemes, each of which goes on to a blank, a mark, an opening bracket or the end
of the text, if it is not a mark itself. -/
inductive Cuts : List Char → List (List Char) → Prop
  | nil : Cuts [] []
  | blank {c : Char} {r : List Char} {ws : List (List Char)} (hc : Text.isBlank c = true)
    (hr : Cuts r ws) : Cuts (c :: r) ws
  | lexeme {w r : List Char} {ws : List (List Char)} (hw : IsLexeme w) (hseam : IsSeam w r)
    (hr : Cuts r ws) : Cuts (w ++ r) (w :: ws)

namespace Cuts

variable {cs : List Char} {ws : List (List Char)}

theorem isLexeme (h : Cuts cs ws) : ∀ w ∈ ws, IsLexeme w := by
  induction h with
  | nil => exact List.forall_mem_nil _
  | blank _ _ ih => exact ih
  | lexeme hw _ _ ih => exact List.forall_mem_cons.mpr ⟨hw, ih⟩

theorem not_equals (h : Cuts cs ws) : '=' ∉ cs := by
  induction h with
  | nil => exact List.not_mem_nil
  | blank hc _ ih =>
    intro hmem
    rcases List.mem_cons.mp hmem with rfl | hmem
    · exact absurd hc (by decide)
    · exact ih hmem
  | lexeme hw _ _ ih => exact List.not_mem_append hw.not_equals ih

/-- Blanks are all that is lost. -/
theorem flatten_eq (h : Cuts cs ws) : ws.flatten = cs.filter fun c => !Text.isBlank c := by
  induction h with
  | nil => rfl
  | blank hc _ ih =>
    rw [List.filter_cons_of_neg (by simp [hc])]
    exact ih
  | @lexeme w r ws hw _ _ ih =>
    have hkeep : w.filter (fun c => !Text.isBlank c) = w :=
      List.filter_eq_self.mpr fun c hc => by simp [hw.not_blank c hc]
    rw [List.flatten_cons, List.filter_append, hkeep, ih]

end Cuts

/-! ## Lexemes and tokens -/

/-- A lexeme is one token. -/
theorem wordTokens_of_isLexeme {w : List Char} (h : IsLexeme w) :
    wordTokens w = [.word (String.ofList w)] := by
  obtain ⟨c, r, rfl⟩ := List.exists_cons_of_ne_nil h.ne_nil
  by_cases hmark : IsMark c
  · have hr : r = [] := List.cons_injective.eq_iff.mp (h.mark_alone c List.mem_cons_self hmark)
    subst hr
    have hone := wordTokens_append_mark hmark [] []
    rwa [List.nil_append, wordTokens_nil, List.nil_append] at hone
  · have hmarks : ∀ d ∈ c :: r, ¬IsMark d := by
      intro d hd hdmark
      have halone := h.mark_alone d hd hdmark
      rw [(List.cons.inj halone).1] at hmark
      exact hmark hdmark
    have hplain : ∀ d ∈ r, IsPlain d := by
      intro d hd
      have hmem : d ∈ c :: r := List.mem_cons_of_mem c hd
      refine ⟨h.not_blank d hmem, hmarks d hmem, ?_, ?_⟩
      · rintro rfl
        exact h.bracket_first hd
      · rintro rfl
        exact h.not_equals hmem
    by_cases hbracket : c = '['
    · subst hbracket
      unfold wordTokens
      rw [spreadMarks_cons_bracket, spreadMarks_of_forall hplain, Text.words_cons rfl,
        Text.words_of_forall h.ne_nil h.not_blank]
      rfl
    · refine wordTokens_of_forall h.ne_nil (List.forall_mem_cons.mpr ⟨?_, hplain⟩)
      refine ⟨h.not_blank c List.mem_cons_self, hmark, hbracket, ?_⟩
      rintro rfl
      exact h.not_equals List.mem_cons_self

/-- The lexemes of a text are its tokens. -/
theorem Cuts.wordTokens_eq {cs : List Char} {ws : List (List Char)} (h : Cuts cs ws) :
    wordTokens cs = ws.map fun w => .word (String.ofList w) := by
  induction h with
  | nil => exact wordTokens_nil
  | @blank c r ws hc _ ih =>
    have hblank : ∀ d ∈ [c], Text.isBlank d = true := List.forall_mem_singleton.mpr hc
    rw [← List.singleton_append, wordTokens_append_of_blank_left hblank, ih]
  | lexeme hw hseam hr ih =>
    rw [wordTokens_append_of_isSeam hseam hw.not_equals hr.not_equals, wordTokens_of_isLexeme hw, ih]
    rfl

/-- Whether a lexeme goes on with a character. -/
def continuesLexeme (c : Char) : Bool := !decide (SplitsWords c ∨ c = '[')

theorem continuesLexeme_iff {c : Char} :
    continuesLexeme c = true ↔ ¬SplitsWords c ∧ c ≠ '[' := by
  simp [continuesLexeme]

theorem isLexeme_mark {c : Char} (h : IsMark c) : IsLexeme [c] := by
  refine ⟨List.cons_ne_nil _ _, List.forall_mem_singleton.mpr h.isBlank, ?_, List.not_mem_nil, ?_⟩
  · intro d hd _
    rw [List.mem_singleton.mp hd]
  · intro hmem
    rw [← List.mem_singleton.mp hmem] at h
    exact absurd h (by decide)

/-- A character that is no mark is a lexeme with all that goes on behind it. -/
theorem isLexeme_cons_takeWhile {c : Char} (hblank : Text.isBlank c = false) (hmark : ¬IsMark c)
    (hc : c ≠ '=') (r : List Char) : IsLexeme (c :: r.takeWhile continuesLexeme) := by
  have hgoes : ∀ d ∈ r.takeWhile continuesLexeme, ¬SplitsWords d ∧ d ≠ '[' := fun d hd =>
    continuesLexeme_iff.mp (List.all_eq_true.mp List.all_takeWhile d hd)
  refine ⟨List.cons_ne_nil _ _, List.forall_mem_cons.mpr ⟨hblank, ?_⟩, ?_, ?_, ?_⟩
  · intro d hd
    rw [Bool.eq_false_iff]
    exact fun hb => (hgoes d hd).1 (.inl hb)
  · intro d hd hm
    rcases List.mem_cons.mp hd with rfl | hd
    · exact absurd hm hmark
    · exact absurd (.inr (.inl hm)) (hgoes d hd).1
  · exact fun hmem => (hgoes _ hmem).2 rfl
  · intro hmem
    rcases List.mem_cons.mp hmem with hmem | hmem
    · exact hc hmem.symm
    · exact (hgoes _ hmem).1 (.inr (.inr rfl))

/-- A token ends where a lexeme does not go on. -/
theorem isSeam_dropWhile (a r : List Char) : IsSeam a (r.dropWhile continuesLexeme) := by
  intro c _ d hd
  have hstop := List.head?_dropWhile_not continuesLexeme r
  rw [Option.mem_def.mp hd] at hstop
  by_cases hsplits : SplitsWords d
  · exact .inr (.inl hsplits)
  · refine .inr (.inr (Classical.byContradiction fun hbracket => ?_))
    have hgoes := continuesLexeme_iff.mpr ⟨hsplits, hbracket⟩
    exact absurd hgoes (by simpa using hstop)

/-- Every text in front of its `=` is cut into lexemes. -/
theorem exists_cuts (cs : List Char) (h : '=' ∉ cs) : ∃ ws, Cuts cs ws := by
  match cs with
  | [] => exact ⟨[], .nil⟩
  | c :: r =>
    rw [List.mem_cons, not_or] at h
    obtain ⟨hc, hr⟩ := h
    by_cases hblank : Text.isBlank c = true
    · obtain ⟨ws, hws⟩ := exists_cuts r hr
      exact ⟨ws, .blank hblank hws⟩
    by_cases hmark : IsMark c
    · obtain ⟨ws, hws⟩ := exists_cuts r hr
      have hseam : IsSeam [c] r := by
        rintro d ⟨⟩ e -
        exact .inl (.inr (.inl hmark))
      exact ⟨[c] :: ws, .lexeme (isLexeme_mark hmark) hseam hws⟩
    · have hshorter := Text.length_dropWhile_le continuesLexeme r
      have hrest : '=' ∉ r.dropWhile continuesLexeme := fun hmem =>
        hr ((List.dropWhile_sublist _).mem hmem)
      obtain ⟨ws, hws⟩ := exists_cuts (r.dropWhile continuesLexeme) hrest
      have hlexeme := isLexeme_cons_takeWhile (Bool.eq_false_iff.mpr hblank) hmark (Ne.symm hc) r
      have hcuts := Cuts.lexeme hlexeme (isSeam_dropWhile _ r) hws
      rw [List.cons_append, List.takeWhile_append_dropWhile] at hcuts
      exact ⟨_, hcuts⟩
termination_by cs.length

/-- The tokens of a text are those of its lexemes, and it has no other lexemes. -/
theorem wordTokens_eq_iff {cs : List Char} (h : '=' ∉ cs) {ws : List (List Char)} :
    wordTokens cs = ws.map (fun w => .word (String.ofList w)) ↔ Cuts cs ws := by
  refine ⟨fun htokens => ?_, Cuts.wordTokens_eq⟩
  obtain ⟨vs, hvs⟩ := exists_cuts cs h
  have hinjective : Function.Injective fun w : List Char => Token.word (String.ofList w) :=
    fun v w e => String.ofList_injective (Token.word.inj e)
  rw [hvs.wordTokens_eq] at htokens
  rwa [← List.map_injective_iff.mpr hinjective htokens]

/-! ## Lexemes that are put together -/

/-- Lexemes with a space behind each stand in front of what follows. -/
theorem Cuts.flatMap_append {ws vs : List (List Char)} (h : ∀ w ∈ ws, IsLexeme w)
    {cs : List Char} (hcs : Cuts cs vs) : Cuts (ws.flatMap (· ++ [' ']) ++ cs) (ws ++ vs) := by
  induction ws with
  | nil => exact hcs
  | cons w ws ih =>
    obtain ⟨hw, hws⟩ := List.forall_mem_cons.mp h
    have hseam : IsSeam w (' ' :: (ws.flatMap (· ++ [' ']) ++ cs)) := by
      rintro c - d ⟨⟩
      exact .inr (.inl (.inl rfl))
    have hcuts := Cuts.lexeme hw hseam (.blank rfl (ih hws))
    rw [List.flatMap_cons, List.append_assoc, List.append_assoc]
    exact hcuts

/-- Lexemes with spaces between them are cut into the same lexemes. -/
theorem cuts_intercalate {ws : List (List Char)} (h : ∀ w ∈ ws, IsLexeme w) :
    Cuts ([' '].intercalate ws) ws := by
  rcases List.eq_nil_or_concat ws with rfl | ⟨init, last, rfl⟩
  · exact .nil
  · rw [List.concat_eq_append] at h ⊢
    have hinit : ∀ w ∈ init, IsLexeme w := fun w hw => h w (List.mem_append_left _ hw)
    have hseam : IsSeam last [] := by rintro c - d ⟨⟩
    have hlast := Cuts.lexeme (h last (by simp)) hseam .nil
    rw [List.append_nil] at hlast
    rw [intercalate_append_cons, List.intercalate_singleton]
    exact .flatMap_append hinit hlast

/-! ## Tokens of a text -/

/-- The tokens of lexemes. -/
def lexemeTokens (ws : List (List Char)) : List Token := ws.map fun w => .word (String.ofList w)

/-- The literal in the text behind an `=`: with plain spaces, and without the blanks at its ends. -/
def literalText (behind : List Char) : List Char :=
  Text.trim (behind.map fun c => if c = '\u00A0' then ' ' else c)

/-- The tokens of an `=` and the text behind it: the `=`, and the literal unless it is empty. -/
def valueTokens (behind : List Char) : List Token :=
  .word "=" :: if literalText behind = [] then [] else [.literal (String.ofList (literalText behind))]

theorem valueTokens_of_eq_nil {behind : List Char} (h : literalText behind = []) :
    valueTokens behind = [.word "="] := by
  unfold valueTokens
  rw [if_pos h]

theorem valueTokens_of_ne_nil {behind : List Char} (h : literalText behind ≠ []) :
    valueTokens behind = [.word "=", .literal (String.ofList (literalText behind))] := by
  unfold valueTokens
  rw [if_neg h]

theorem tokenizeChars_of_cuts {cs : List Char} {ws : List (List Char)} (h : Cuts cs ws) :
    tokenizeChars cs = lexemeTokens ws := by
  rw [tokenizeChars_of_not_mem h.not_equals, h.wordTokens_eq]
  rfl

theorem tokenizeChars_of_cuts_append {front : List Char} {ws : List (List Char)}
    (h : Cuts front ws) (behind : List Char) :
    tokenizeChars (front ++ '=' :: behind) = lexemeTokens ws ++ valueTokens behind := by
  rw [tokenizeChars_append_equals h.not_equals, h.wordTokens_eq]
  simp only [literalTokens, List.isEmpty_iff]
  rfl

theorem count_lexemeTokens {ws : List (List Char)} (h : ∀ w ∈ ws, IsLexeme w) :
    (lexemeTokens ws).count (.word "=") = 0 := by
  rw [List.count_eq_zero]
  intro hmem
  obtain ⟨w, hw, he⟩ := List.mem_map.mp hmem
  have hchars : w = ['='] := by
    have htoken := congrArg String.toList (Token.word.inj he)
    rwa [String.toList_ofList] at htoken
  exact (h w hw).not_equals (hchars ▸ List.mem_singleton_self '=')

theorem count_valueTokens (behind : List Char) :
    (valueTokens behind).count (.word "=") = 1 := by
  by_cases h : literalText behind = []
  · rw [valueTokens_of_eq_nil h]
    rfl
  · rw [valueTokens_of_ne_nil h, List.count_cons_self, List.count_singleton]
    rfl

/-! ## The tokens as a text -/

theorem toList_render (ts : List Token) :
    (Token.render ts).toList = [' '].intercalate (ts.map fun t => t.text.toList) := by
  unfold Token.render
  rw [String.toList_intercalate, List.map_map]
  rfl

theorem map_toList_lexemeTokens (ws : List (List Char)) :
    (lexemeTokens ws).map (fun t => t.text.toList) = ws := by
  unfold lexemeTokens
  rw [List.map_map]
  conv_rhs => rw [← List.map_id ws]
  exact List.map_congr_left fun w _ => String.toList_ofList

theorem tokenize_render_lexemeTokens {ws : List (List Char)} (h : ∀ w ∈ ws, IsLexeme w) :
    tokenize (Token.render (lexemeTokens ws)) = lexemeTokens ws := by
  unfold tokenize
  rw [toList_render, map_toList_lexemeTokens, tokenizeChars_of_cuts (cuts_intercalate h)]

/-- A literal is trimmed and its spaces are plain, so with a space in front it is the same literal. -/
theorem literalText_cons (behind : List Char) :
    literalText (' ' :: literalText behind) = literalText behind := by
  have hplain : ∀ c ∈ literalText behind, c ≠ '\u00A0' := by
    obtain ⟨a, b, hab, -, -⟩ := Text.exists_trim (plainSpaces behind)
    intro c hc
    have hmem : c ∈ plainSpaces behind := by
      rw [hab]
      exact List.mem_append_right _ (List.mem_append_left _ hc)
    exact ne_of_mem_plainSpaces c hmem
  show Text.trim (plainSpaces (' ' :: literalText behind)) = _
  rw [plainSpaces_of_forall (List.forall_mem_cons.mpr ⟨by decide, hplain⟩), Text.trim_cons rfl]
  exact Text.trim_trim _

theorem exists_render_valueTokens (behind : List Char) : ∃ again,
    [' '].intercalate ((valueTokens behind).map fun t => t.text.toList) = '=' :: again ∧
      valueTokens again = valueTokens behind := by
  by_cases h : literalText behind = []
  · rw [valueTokens_of_eq_nil h]
    exact ⟨[], rfl, rfl⟩
  · refine ⟨' ' :: literalText behind, ?_, ?_⟩
    · rw [valueTokens_of_ne_nil h]
      show [' '].intercalate [['='], (String.ofList (literalText behind)).toList] = _
      rw [String.toList_ofList, List.intercalate_cons_cons, List.intercalate_singleton]
      rfl
    · unfold valueTokens
      rw [literalText_cons]

theorem tokenize_render_valueTokens {ws : List (List Char)} (h : ∀ w ∈ ws, IsLexeme w)
    (behind : List Char) :
    tokenize (Token.render (lexemeTokens ws ++ valueTokens behind)) =
      lexemeTokens ws ++ valueTokens behind := by
  obtain ⟨again, hrender, hvalue⟩ := exists_render_valueTokens behind
  have hfront : Cuts (ws.flatMap (· ++ [' '])) ws := by
    have hcuts := Cuts.flatMap_append h .nil
    rwa [List.append_nil, List.append_nil] at hcuts
  have hlist : (Token.render (lexemeTokens ws ++ valueTokens behind)).toList =
      ws.flatMap (· ++ [' ']) ++ '=' :: again := by
    rw [← hrender, toList_render, List.map_append, map_toList_lexemeTokens]
    unfold valueTokens
    rw [List.map_cons, intercalate_append_cons]
  unfold tokenize
  rw [hlist, tokenizeChars_of_cuts_append hfront, hvalue]

/-- The tokens of a text are the lexemes of what stands in front of its first `=`, and the `=` with
the literal behind it.  Of the front only the blanks are lost, the literal is what is behind the `=`,
and the tokens with spaces between them have the same tokens. -/
theorem tokenize_lossless (text : String) :
    ∃ (lexemes : List (List Char)) (value : List Token),
      tokenize text = (lexemes.map fun w => .word (String.ofList w)) ++ value ∧
      Cuts (text.toList.takeWhile (· ≠ '=')) lexemes ∧
      lexemes.flatten =
        (text.toList.takeWhile (· ≠ '=')).filter (fun c => !Text.isBlank c) ∧
      (∀ w ∈ lexemes, IsLexeme w) ∧
      ('=' ∉ text.toList → value = []) ∧
      (∀ front behind, text.toList = front ++ '=' :: behind → '=' ∉ front →
        value = valueTokens behind) ∧
      (tokenize text).count (.word "=") = (if '=' ∈ text.toList then 1 else 0) ∧
      tokenize (Token.render (tokenize text)) = tokenize text := by
  have ne_equals : ∀ {cs : List Char}, '=' ∉ cs → ∀ c ∈ cs, decide (c ≠ '=') = true := by
    intro cs hcs c hc
    rw [decide_eq_true_eq]
    rintro rfl
    exact hcs hc
  by_cases h : '=' ∈ text.toList
  · obtain ⟨front, behind, htext, hfront⟩ := List.eq_append_cons_of_mem h
    obtain ⟨ws, hws⟩ := exists_cuts front hfront
    have htokens : tokenize text = lexemeTokens ws ++ valueTokens behind := by
      unfold tokenize
      rw [htext, tokenizeChars_of_cuts_append hws]
    have hhead : text.toList.takeWhile (· ≠ '=') = front := by
      rw [htext]
      exact Text.takeWhile_append_of_head (ne_equals hfront) (by rintro c ⟨⟩; decide)
    refine ⟨ws, valueTokens behind, htokens, ?_, ?_, hws.isLexeme, fun hnot => absurd h hnot, ?_, ?_,
      ?_⟩
    · rw [hhead]
      exact hws
    · rw [hhead]
      exact hws.flatten_eq
    · -- a text has one first `=`
      intro front' behind' htext' hfront'
      have hcut := cutAt?_eq_some_iff.mpr ⟨htext', hfront'⟩
      rw [cutAt?_eq_some_iff.mpr ⟨htext, hfront⟩] at hcut
      cases hcut
      rfl
    · rw [htokens, List.count_append, count_lexemeTokens hws.isLexeme, count_valueTokens, if_pos h]
    · rw [htokens, tokenize_render_valueTokens hws.isLexeme]
  · obtain ⟨ws, hws⟩ := exists_cuts text.toList h
    have htokens : tokenize text = lexemeTokens ws := tokenizeChars_of_cuts hws
    have hhead : text.toList.takeWhile (· ≠ '=') = text.toList :=
      List.takeWhile_eq_self_iff.mpr (ne_equals h)
    refine ⟨ws, [], ?_, ?_, ?_, hws.isLexeme, fun _ => rfl, ?_, ?_, ?_⟩
    · rw [htokens, List.append_nil]
      rfl
    · rw [hhead]
      exact hws
    · rw [hhead]
      exact hws.flatten_eq
    · intro front behind htext _
      exact absurd (htext ▸ by simp) h
    · rw [htokens, count_lexemeTokens hws.isLexeme, if_neg h]
    · rw [htokens, tokenize_render_lexemeTokens hws.isLexeme]

end ApiDoc
