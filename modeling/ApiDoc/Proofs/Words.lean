import ApiDoc.Text.Alphanumeric
import ApiDoc.Token
import Mathlib.Data.List.Chain
import Mathlib.Data.List.DropRight
import Mathlib.Data.List.Forall2

/-!
# Cutting a text into words

A text is cut at its blanks, so the words of a text with a blank inside are those of the two parts
(`Text.words_append_cons`).  Spreading puts a blank at every place where a token ends or begins,
which makes cutting a declaration just as compositional: at a blank, around a mark and in front of
an opening bracket the tokens of the two sides stand side by side (`wordTokens_append_blank`,
`wordTokens_append_mark`, `wordTokens_append_bracket`).

`Spells cs ts` says that a text is cut into the tokens `ts` and has nothing in it that the cutting
would treat specially.  The laws of `Spells` follow the ways in which the printers put texts
together.
-/

namespace ApiDoc

/-! ## Blanks and name characters -/

namespace Text

/-- The code points of the blanks. -/
def blankCodes : List Nat :=
  List.range' 9 5 ++ List.range' 0x2000 11 ++
    [0x20, 0x85, 0xA0, 0x1680, 0x2028, 0x2029, 0x202F, 0x205F, 0x3000]

theorem toNat_mem_blankCodes {c : Char} (h : isBlank c = true) : c.toNat ∈ blankCodes := by
  simp only [isBlank, Bool.or_eq_true, Bool.and_eq_true, beq_iff_eq, decide_eq_true_eq,
    ← Char.toNat_inj, show ' '.toNat = 0x20 from rfl] at h
  simp only [blankCodes, List.mem_append, List.mem_range'_1, List.mem_cons, List.not_mem_nil,
    or_false]
  omega

theorem isNameChar_blankCodes : ∀ n ∈ blankCodes, isNameChar (Char.ofNat n) = false := by
  decide +kernel

/-- A name has no character of a table in which no name character stands. -/
theorem toNat_not_mem_of_isNameChar {codes : List Nat}
    (hcodes : ∀ n ∈ codes, isNameChar (Char.ofNat n) = false) {c : Char} (h : isNameChar c = true) :
    c.toNat ∉ codes := by
  intro hmem
  have hn := hcodes c.toNat hmem
  rw [Char.ofNat_toNat, h] at hn
  cases hn

/-- No blank occurs in a name. -/
theorem isBlank_of_isNameChar {c : Char} (h : isNameChar c = true) : isBlank c = false := by
  rw [Bool.eq_false_iff]
  exact fun hb => toNat_not_mem_of_isNameChar isNameChar_blankCodes h (toNat_mem_blankCodes hb)

theorem isBlank_brackets : ∀ c ∈ ['[', ']'], isBlank c = false :=
  List.forall_mem_cons.mpr ⟨rfl, List.forall_mem_singleton.mpr rfl⟩

/-! ## Trimming -/

/-- Trimming the end takes blanks off the end and nothing else. -/
theorem exists_trimEnd (cs : List Char) :
    ∃ b, cs = trimEnd cs ++ b ∧ ∀ c ∈ b, isBlank c = true := by
  refine ⟨(cs.reverse.takeWhile isBlank).reverse, ?_, ?_⟩
  · have h := List.takeWhile_append_dropWhile (p := isBlank) (l := cs.reverse)
    have h := congrArg List.reverse h
    rw [List.reverse_append, List.reverse_reverse] at h
    exact h.symm
  · intro c hc
    exact List.all_eq_true.mp List.all_takeWhile c (List.mem_reverse.mp hc)

/-- Trimming takes blanks off both ends and nothing else. -/
theorem exists_trim (cs : List Char) : ∃ a b, cs = a ++ (trim cs ++ b) ∧
    (∀ c ∈ a, isBlank c = true) ∧ ∀ c ∈ b, isBlank c = true := by
  obtain ⟨b, hb, hblank⟩ := exists_trimEnd (trimStart cs)
  refine ⟨cs.takeWhile isBlank, b, ?_, List.all_eq_true.mp List.all_takeWhile, hblank⟩
  have h := List.takeWhile_append_dropWhile (p := isBlank) (l := cs)
  exact h.symm.trans (congrArg (cs.takeWhile isBlank ++ ·) hb)

theorem dropWhile_isBlank_of_forall {cs : List Char} (h : ∀ c ∈ cs, isBlank c = false) :
    cs.dropWhile isBlank = cs := by
  cases cs with
  | nil => rfl
  | cons c r =>
    have hc := h c List.mem_cons_self
    rw [List.dropWhile_cons_of_neg (by simp [hc])]

theorem trim_of_forall {cs : List Char} (h : ∀ c ∈ cs, isBlank c = false) : trim cs = cs := by
  have hrev : ∀ c ∈ cs.reverse, isBlank c = false := fun c hc => h c (List.mem_reverse.mp hc)
  unfold trim trimEnd trimStart
  rw [dropWhile_isBlank_of_forall h, dropWhile_isBlank_of_forall hrev, List.reverse_reverse]

/-- A blank in front makes no difference to the trimmed text. -/
theorem trim_cons {c : Char} (hc : isBlank c = true) (cs : List Char) :
    trim (c :: cs) = trim cs := by
  unfold trim trimStart
  rw [List.dropWhile_cons_of_pos hc]

theorem trimStart_trim (cs : List Char) : trimStart (trim cs) = trim cs := by
  obtain ⟨b, hb, -⟩ := exists_trimEnd (trimStart cs)
  have hhead := List.head?_dropWhile_not isBlank cs
  cases ht : trim cs with
  | nil => rfl
  | cons x r =>
    -- what trimming at both ends leaves starts as what trimming in front leaves
    have hstart : cs.dropWhile isBlank = x :: (r ++ b) := hb.trans (congrArg (· ++ b) ht)
    rw [hstart] at hhead
    exact List.dropWhile_cons_of_neg (by simpa using hhead)

theorem trimEnd_trim (cs : List Char) : trimEnd (trim cs) = trim cs := by
  show ((trimEnd (trimStart cs)).reverse.dropWhile isBlank).reverse = _
  unfold trimEnd
  rw [List.reverse_reverse, List.dropWhile_idempotent]
  rfl

/-- Trimming again changes nothing. -/
theorem trim_trim (cs : List Char) : trim (trim cs) = trim cs := by
  rw [trim, trimStart_trim, trimEnd_trim]

/-- A text with nothing left after trimming is blank. -/
theorem trim_eq_nil_iff {cs : List Char} : trim cs = [] ↔ ∀ c ∈ cs, isBlank c = true := by
  constructor
  · intro h
    obtain ⟨a, b, hcs, ha, hb⟩ := exists_trim cs
    rw [hcs, h]
    simpa [or_imp, forall_and] using ⟨ha, hb⟩
  · intro h
    unfold trim trimStart
    rw [List.dropWhile_eq_nil_iff.mpr h]
    rfl

/-- Trimming takes off the blanks around a character that is none. -/
theorem trim_append_cons {a b : List Char} {c : Char} (hc : isBlank c = false)
    (ha : ∀ d ∈ a, isBlank d = true) (hb : ∀ d ∈ b, isBlank d = true) :
    trim (a ++ c :: b) = [c] := by
  have hstart : trimStart (a ++ c :: b) = c :: b := by
    unfold trimStart
    rw [List.dropWhile_append_of_pos ha, List.dropWhile_cons_of_neg (by simp [hc])]
  have hback : ∀ d ∈ b.reverse, isBlank d = true := fun d hd => hb d (List.mem_reverse.mp hd)
  unfold trim trimEnd
  rw [hstart, List.reverse_cons, List.dropWhile_append_of_pos hback,
    List.dropWhile_cons_of_neg (by simp [hc])]
  rfl

theorem trimStart_append_of_forall (cs : List Char) {x : List Char}
    (h : ∀ c ∈ x, isBlank c = false) : trimStart (cs ++ x) = trimStart cs ++ x := by
  unfold trimStart
  rw [List.dropWhile_append, dropWhile_isBlank_of_forall h]
  split
  · next hempty => rw [List.isEmpty_iff.mp hempty, List.nil_append]
  · rfl

/-- Nothing is trimmed off an end without blanks. -/
theorem trimEnd_append_of_forall (cs : List Char) {x : List Char} (hne : x ≠ [])
    (h : ∀ c ∈ x, isBlank c = false) : trimEnd (cs ++ x) = cs ++ x := by
  have hback : ∀ c ∈ x.reverse, isBlank c = false := fun c hc => h c (List.mem_reverse.mp hc)
  unfold trimEnd
  rw [List.reverse_append, List.dropWhile_append, dropWhile_isBlank_of_forall hback,
    if_neg (by simpa using hne), List.reverse_append, List.reverse_reverse, List.reverse_reverse]

theorem trimEnd_append_of_blank (cs : List Char) {b : List Char}
    (hb : ∀ c ∈ b, isBlank c = true) : trimEnd (cs ++ b) = trimEnd cs := by
  have hback : ∀ c ∈ b.reverse, isBlank c = true := fun c hc => hb c (List.mem_reverse.mp hc)
  unfold trimEnd
  rw [List.reverse_append, List.dropWhile_append_of_pos hback]

/-! ## Words -/

theorem splitOnP_pieces (p : Char → Bool) : ∀ l : List Char, ∃ w ws, l.splitOnP p = w :: ws ∧
    w <+: l ∧ (∀ v ∈ ws, v <:+: l) ∧ ∀ v ∈ w :: ws, ∀ c ∈ v, p c = false
  | [] => ⟨[], [], by simp, List.prefix_rfl, by simp, by simp⟩
  | x :: l => by
    obtain ⟨w, ws, he, hw, hws, hp⟩ := splitOnP_pieces p l
    rw [List.splitOnP_cons_eq_if_modifyHead, he]
    by_cases hx : p x = true
    · rw [if_pos hx]
      refine ⟨[], w :: ws, rfl, List.nil_prefix, ?_, ?_⟩
      · intro v hv
        rcases List.mem_cons.mp hv with rfl | hv
        · exact List.infix_cons hw.isInfix
        · exact List.infix_cons (hws v hv)
      · intro v hv
        rcases List.mem_cons.mp hv with rfl | hv
        · simp
        · exact hp v hv
    · rw [if_neg hx]
      refine ⟨x :: w, ws, rfl, List.cons_prefix_cons.mpr ⟨rfl, hw⟩, ?_, ?_⟩
      · intro v hv
        exact List.infix_cons (hws v hv)
      · intro v hv
        rcases List.mem_cons.mp hv with rfl | hv
        · intro c hc
          rcases List.mem_cons.mp hc with rfl | hc
          · exact Bool.eq_false_iff.mpr hx
          · exact hp w List.mem_cons_self c hc
        · exact hp v (List.mem_cons_of_mem _ hv)

/-- A word is a part of the text, and has no blanks. -/
theorem infix_of_mem_words {cs w : List Char} (h : w ∈ words cs) :
    w <:+: cs ∧ ∀ c ∈ w, isBlank c = false := by
  obtain ⟨v, vs, he, hv, hvs, hp⟩ := splitOnP_pieces isBlank cs
  have hw : w ∈ v :: vs := he ▸ (List.mem_filter.mp h).1
  refine ⟨?_, hp w hw⟩
  rcases List.mem_cons.mp hw with rfl | hw
  · exact hv.isInfix
  · exact hvs w hw

/-- Words are cut at every blank. -/
theorem words_append_cons {c : Char} (hc : isBlank c = true) (a b : List Char) :
    words (a ++ c :: b) = words a ++ words b := by
  unfold words
  rw [List.splitOnP_append_cons a b hc, List.filter_append]

theorem words_cons {c : Char} (hc : isBlank c = true) (b : List Char) :
    words (c :: b) = words b := by
  have h := words_append_cons hc [] b
  rwa [words_nil] at h

/-- A text without blanks is one word. -/
theorem words_of_forall {w : List Char} (hw : w ≠ []) (h : ∀ c ∈ w, isBlank c = false) :
    words w = [w] := by
  unfold words
  rw [List.splitOnP_eq_singleton h]
  simp [hw]

theorem words_cons_ne_nil {c : Char} (hc : isBlank c = false) (r : List Char) :
    words (c :: r) ≠ [] := by
  obtain ⟨w, ws, hr, -⟩ := splitOnP_pieces isBlank r
  unfold words
  rw [List.splitOnP_cons_eq_if_modifyHead, hc, if_neg Bool.false_ne_true, hr,
    List.modifyHead_cons, List.filter_cons_of_pos rfl]
  exact List.cons_ne_nil _ _

end Text

/-! ## Spreading -/

/-- The characters that are tokens of their own. -/
def IsMark (c : Char) : Prop := c = '(' ∨ c = ')' ∨ c = ','

instance (c : Char) : Decidable (IsMark c) := inferInstanceAs (Decidable (_ ∨ _ ∨ _))

theorem IsMark.isBlank {c : Char} (h : IsMark c) : Text.isBlank c = false := by
  rcases h with rfl | rfl | rfl <;> rfl

/-- The characters that cutting leaves within a word. -/
structure IsPlain (c : Char) : Prop where
  not_blank : Text.isBlank c = false
  not_mark : ¬IsMark c
  not_bracket : c ≠ '['
  not_equals : c ≠ '='

theorem isNameChar_specials :
    (['(', ')', ',', '[', '='].all fun c => !Text.isNameChar c) = true := by
  decide +kernel

theorem isPlain_of_isNameChar {c : Char} (h : Text.isNameChar c = true) : IsPlain c := by
  have hne : ∀ d ∈ ['(', ')', ',', '[', '='], c ≠ d := by
    intro d hd e
    have hn := List.all_eq_true.mp isNameChar_specials d hd
    rw [← e, h] at hn
    cases hn
  refine ⟨Text.isBlank_of_isNameChar h, ?_, hne _ (by simp), hne _ (by simp)⟩
  rintro (rfl | rfl | rfl) <;> exact hne _ (by simp) rfl

theorem spreadMarks_append (a b : List Char) :
    spreadMarks (a ++ b) = spreadMarks a ++ spreadMarks b := List.flatMap_append

theorem spreadMarks_cons_mark {c : Char} (h : IsMark c) (b : List Char) :
    spreadMarks (c :: b) = ' ' :: c :: ' ' :: spreadMarks b := by
  rcases h with rfl | rfl | rfl <;> rfl

theorem spreadMarks_cons_bracket (b : List Char) :
    spreadMarks ('[' :: b) = ' ' :: '[' :: spreadMarks b := rfl

theorem spreadMarks_cons_other {c : Char} (h : ¬IsMark c) (hb : c ≠ '[') (b : List Char) :
    spreadMarks (c :: b) = c :: spreadMarks b := by
  unfold IsMark at h
  simp only [spreadMarks, List.flatMap_cons, if_neg h, if_neg hb]
  rfl

theorem spreadMarks_of_forall {w : List Char} (h : ∀ c ∈ w, IsPlain c) : spreadMarks w = w := by
  induction w with
  | nil => rfl
  | cons c w ih =>
    have hc := h c List.mem_cons_self
    rw [spreadMarks_cons_other hc.not_mark hc.not_bracket,
      ih fun d hd => h d (List.mem_cons_of_mem _ hd)]

/-- Next to a mark, and in front of a bracket, there is a blank. -/
def Apart (x y : Char) : Prop :=
  (IsMark x → Text.isBlank y = true) ∧ (IsMark y ∨ y = '[' → Text.isBlank x = true)

theorem head?_spreadMarks {cs : List Char} {y : Char} (h : y ∈ (spreadMarks cs).head?) :
    ¬(IsMark y ∨ y = '[') := by
  cases cs with
  | nil => cases h
  | cons c r =>
    by_cases hc : IsMark c
    · rw [spreadMarks_cons_mark hc] at h
      cases h
      decide
    by_cases hb : c = '['
    · rw [hb, spreadMarks_cons_bracket] at h
      cases h
      decide
    · rw [spreadMarks_cons_other hc hb] at h
      cases h
      exact not_or_intro hc hb

theorem isChain_spreadMarks (cs : List Char) : (spreadMarks cs).IsChain Apart := by
  induction cs with
  | nil => exact .nil
  | cons c r ih =>
    -- the character that stands in front of the rest decides alone, as the rest starts neither
    -- with a mark nor with a bracket
    have hcons : ∀ x, ¬IsMark x → (x :: spreadMarks r).IsChain Apart := by
      intro x hx
      refine ih.cons fun y hy => ⟨fun h => absurd h hx, fun h => ?_⟩
      exact absurd h (head?_spreadMarks hy)
    by_cases hc : IsMark c
    · rw [spreadMarks_cons_mark hc]
      have hspace : ¬IsMark ' ' := by decide
      refine .cons_cons ⟨fun h => absurd h hspace, fun _ => rfl⟩ ?_
      exact .cons_cons ⟨fun _ => rfl, fun h => absurd h (by decide)⟩ (hcons ' ' hspace)
    by_cases hb : c = '['
    · subst hb
      rw [spreadMarks_cons_bracket]
      exact .cons_cons ⟨fun h => absurd h (by decide), fun _ => rfl⟩ (hcons '[' hc)
    · rw [spreadMarks_cons_other hc hb]
      exact hcons c hc

/-- Within a word of a spread text a bracket can only stand first. -/
theorem not_mem_tail_of_mem_words {cs w : List Char} (h : w ∈ Text.words (spreadMarks cs)) :
    '[' ∉ w.tail := by
  obtain ⟨hw, hblank⟩ := Text.infix_of_mem_words h
  have hchain : w.IsChain Apart := List.IsChain.infix (isChain_spreadMarks cs) hw
  intro hmem
  cases w with
  | nil => cases hmem
  | cons x t =>
    obtain ⟨a, b, rfl⟩ := List.append_of_mem (a := '[') hmem
    -- the character in front of the bracket would have to be a blank
    obtain ⟨l, y, hy⟩ : ∃ l y, x :: a = l ++ [y] :=
      ⟨_, _, (List.dropLast_append_getLast (List.cons_ne_nil x a)).symm⟩
    have hword : x :: (a ++ '[' :: b) = l ++ y :: '[' :: b := by
      rw [← List.cons_append, hy, List.append_assoc]
      rfl
    rw [hword] at hchain hblank
    have hap : Apart y '[' := List.isChain_iff_forall_rel_of_append_cons_cons.mp hchain rfl
    have hy := hblank y (by simp)
    rw [hap.2 (.inr rfl)] at hy
    cases hy

/-! ## Word tokens -/

theorem wordTokens_nil : wordTokens [] = [] := by
  simp [wordTokens, spreadMarks, Text.words_nil]

/-- A blank separates tokens. -/
theorem wordTokens_append_blank {c : Char} (hc : Text.isBlank c = true) (a b : List Char) :
    wordTokens (a ++ c :: b) = wordTokens a ++ wordTokens b := by
  have hm : ¬IsMark c := by
    intro h
    rw [h.isBlank] at hc
    cases hc
  have hb : c ≠ '[' := by
    rintro rfl
    exact absurd hc (by decide)
  unfold wordTokens
  rw [spreadMarks_append, spreadMarks_cons_other hm hb, Text.words_append_cons hc, List.map_append]

/-- A text goes on with new tokens where the next text starts with a blank. -/
theorem wordTokens_append_of_head (a : List Char) {b : List Char}
    (hb : ∀ c ∈ b.head?, Text.isBlank c = true) :
    wordTokens (a ++ b) = wordTokens a ++ wordTokens b := by
  cases b with
  | nil => rw [wordTokens_nil, List.append_nil, List.append_nil]
  | cons c b =>
    have hc := hb c rfl
    have hcons := wordTokens_append_blank hc [] b
    rw [List.nil_append, wordTokens_nil, List.nil_append] at hcons
    rw [wordTokens_append_blank hc, hcons]

/-- A mark is a token of its own. -/
theorem wordTokens_append_mark {c : Char} (hc : IsMark c) (a b : List Char) :
    wordTokens (a ++ c :: b) = wordTokens a ++ .word (String.singleton c) :: wordTokens b := by
  have hspace : Text.isBlank ' ' = true := rfl
  have hword : Text.words [c] = [[c]] :=
    Text.words_of_forall (List.cons_ne_nil _ _) (by simpa using hc.isBlank)
  have hcut : Text.words (c :: ' ' :: spreadMarks b) = [c] :: Text.words (spreadMarks b) := by
    have h := Text.words_append_cons hspace [c] (spreadMarks b)
    rwa [hword] at h
  unfold wordTokens
  rw [spreadMarks_append, spreadMarks_cons_mark hc, Text.words_append_cons hspace, hcut,
    List.map_append, List.map_cons]
  rfl

/-- A token ends where a bracket opens. -/
theorem wordTokens_append_bracket (a b : List Char) :
    wordTokens (a ++ '[' :: b) = wordTokens a ++ wordTokens ('[' :: b) := by
  have hspace : Text.isBlank ' ' = true := rfl
  unfold wordTokens
  rw [spreadMarks_append, spreadMarks_cons_bracket, Text.words_append_cons hspace,
    Text.words_cons hspace, List.map_append]

theorem wordTokens_of_forall {w : List Char} (hw : w ≠ []) (h : ∀ c ∈ w, IsPlain c) :
    wordTokens w = [.word (String.ofList w)] := by
  unfold wordTokens
  rw [spreadMarks_of_forall h, Text.words_of_forall hw fun c hc => (h c hc).not_blank]
  rfl

/-- The text of one array dimension is one token. -/
theorem wordTokens_brackets : wordTokens ['[', ']'] = [.word "[]"] := by
  unfold wordTokens
  rw [show spreadMarks ['[', ']'] = ' ' :: ['[', ']'] from rfl, Text.words_cons rfl,
    Text.words_of_forall (List.cons_ne_nil _ _) Text.isBlank_brackets]
  rfl

/-! ## Blanks that do not count -/

theorem wordTokens_of_blank {b : List Char} (hb : ∀ c ∈ b, Text.isBlank c = true) :
    wordTokens b = [] := by
  induction b with
  | nil => exact wordTokens_nil
  | cons c b ih =>
    obtain ⟨hc, hb⟩ := List.forall_mem_cons.mp hb
    have h := wordTokens_append_blank hc [] b
    rwa [wordTokens_nil, ih hb] at h

/-- Blanks at the end of a text add no token. -/
theorem wordTokens_append_of_blank (a : List Char) {b : List Char}
    (hb : ∀ c ∈ b, Text.isBlank c = true) : wordTokens (a ++ b) = wordTokens a := by
  cases b with
  | nil => rw [List.append_nil]
  | cons c b =>
    obtain ⟨hc, hb⟩ := List.forall_mem_cons.mp hb
    rw [wordTokens_append_blank hc, wordTokens_of_blank hb, List.append_nil]

/-- Blanks at the start of a text add no token. -/
theorem wordTokens_append_of_blank_left {a : List Char} (ha : ∀ c ∈ a, Text.isBlank c = true)
    (b : List Char) : wordTokens (a ++ b) = wordTokens b := by
  induction a with
  | nil => rfl
  | cons c a ih =>
    obtain ⟨hc, ha⟩ := List.forall_mem_cons.mp ha
    have h := wordTokens_append_blank hc [] (a ++ b)
    rwa [wordTokens_nil, ih ha] at h

/-- Only blanks give no token. -/
theorem wordTokens_eq_nil_iff {cs : List Char} :
    wordTokens cs = [] ↔ ∀ c ∈ cs, Text.isBlank c = true := by
  refine ⟨fun h => ?_, wordTokens_of_blank⟩
  induction cs with
  | nil => exact List.forall_mem_nil _
  | cons c r ih =>
    by_cases hc : Text.isBlank c = true
    · have hblank : ∀ d ∈ [c], Text.isBlank d = true := List.forall_mem_singleton.mpr hc
      rw [← List.singleton_append, wordTokens_append_of_blank_left hblank] at h
      exact List.forall_mem_cons.mpr ⟨hc, ih h⟩
    · exfalso
      rw [Bool.not_eq_true] at hc
      have hspace : Text.isBlank ' ' = true := rfl
      rw [wordTokens, List.map_eq_nil_iff] at h
      by_cases hm : IsMark c
      · rw [spreadMarks_cons_mark hm, Text.words_cons hspace] at h
        exact Text.words_cons_ne_nil hc _ h
      by_cases hb : c = '['
      · subst hb
        rw [spreadMarks_cons_bracket, Text.words_cons hspace] at h
        exact Text.words_cons_ne_nil hc _ h
      · rw [spreadMarks_cons_other hm hb] at h
        exact Text.words_cons_ne_nil hc _ h

/-! ## Texts without literals -/

theorem plainSpaces_of_forall {cs : List Char} (h : ∀ c ∈ cs, c ≠ '\u00A0') :
    plainSpaces cs = cs := by
  unfold plainSpaces
  rw [List.map_congr_left fun c hc => if_neg (h c hc), List.map_id']

/-- Non-breaking spaces separate words as spaces do. -/
theorem wordTokens_plainSpaces (cs : List Char) : wordTokens (plainSpaces cs) = wordTokens cs := by
  have hnbsp : Text.isBlank '\u00A0' = true := rfl
  by_cases h : '\u00A0' ∈ cs
  · obtain ⟨a, b, hcs, ha⟩ := List.eq_append_cons_of_mem h
    have hplain : plainSpaces cs = a ++ ' ' :: plainSpaces b := by
      have hfirst := plainSpaces_of_forall fun c hc (e : c = '\u00A0') => ha (e ▸ hc)
      unfold plainSpaces at hfirst ⊢
      rw [hcs, List.map_append, hfirst]
      rfl
    have hshorter : b.length < cs.length := by
      rw [hcs, List.length_append, List.length_cons]
      omega
    rw [hplain, hcs, wordTokens_append_blank rfl, wordTokens_append_blank hnbsp,
      wordTokens_plainSpaces b]
  · rw [plainSpaces_of_forall fun c hc (e : c = '\u00A0') => h (e ▸ hc)]
termination_by cs.length

theorem cutAt?_eq_none {c : Char} {cs : List Char} (h : ∀ d ∈ cs, d ≠ c) :
    Text.cutAt? c cs = none := by
  induction cs with
  | nil => rfl
  | cons x r ih =>
    rw [Text.cutAt?, if_neg (h x List.mem_cons_self), ih fun d hd => h d (List.mem_cons_of_mem _ hd)]
    rfl

/-- The cut is made at the first of the characters. -/
theorem cutAt?_eq_some_iff {c : Char} {cs a b : List Char} :
    Text.cutAt? c cs = some (a, b) ↔ cs = a ++ c :: b ∧ c ∉ a := by
  constructor
  · intro h
    induction cs generalizing a with
    | nil => cases h
    | cons x r ih =>
      rw [Text.cutAt?] at h
      by_cases hx : x = c
      · rw [if_pos hx] at h
        cases h
        exact ⟨by rw [hx, List.nil_append], List.not_mem_nil⟩
      · rw [if_neg hx] at h
        obtain ⟨⟨front, back⟩, hcut, he⟩ := Option.map_eq_some_iff.mp h
        cases he
        obtain ⟨rfl, hc⟩ := ih hcut
        exact ⟨rfl, List.not_mem_cons_of_ne_of_not_mem (Ne.symm hx) hc⟩
  · rintro ⟨rfl, hc⟩
    induction a with
    | nil => rw [List.nil_append, Text.cutAt?, if_pos rfl]
    | cons x a ih =>
      rw [List.mem_cons, not_or] at hc
      obtain ⟨hx, ha⟩ := hc
      rw [List.cons_append, Text.cutAt?, if_neg (Ne.symm hx), ih ha]
      rfl

theorem plainSpaces_append (a b : List Char) :
    plainSpaces (a ++ b) = plainSpaces a ++ plainSpaces b := List.map_append

theorem mem_plainSpaces_equals {cs : List Char} (h : '=' ∉ cs) : '=' ∉ plainSpaces cs := by
  intro hc
  obtain ⟨d, hd, he⟩ := List.mem_map.mp hc
  split at he
  · exact absurd he (by decide)
  · exact h (he ▸ hd)

/-- A text without `=` is cut into words. -/
theorem lexText_of_not_mem {cs : List Char} (h : '=' ∉ cs) : lexText none cs = (wordTokens cs, none) := by
  have hplain : ∀ c ∈ plainSpaces cs, c ≠ '=' := by
    rintro c hc rfl
    exact mem_plainSpaces_equals h hc
  simp only [lexText, cutAt?_eq_none hplain, wordTokens_plainSpaces]

/-- Behind the first `=` of a text the literal begins. -/
theorem lexText_append_equals {a : List Char} (h : '=' ∉ a) (b : List Char) :
    lexText none (a ++ '=' :: b) = (wordTokens a ++ [.word "="], some (plainSpaces b)) := by
  have hplain : plainSpaces (a ++ '=' :: b) = plainSpaces a ++ '=' :: plainSpaces b := by
    rw [plainSpaces_append]
    rfl
  have hcut := cutAt?_eq_some_iff.mpr ⟨hplain, mem_plainSpaces_equals h⟩
  simp only [lexText, hcut, wordTokens_plainSpaces]

theorem tokenizeChars_of_not_mem {cs : List Char} (h : '=' ∉ cs) :
    tokenizeChars cs = wordTokens cs := by
  simp only [tokenizeChars, lexText_of_not_mem h, literalTokens, List.append_nil]

theorem tokenize_of_not_mem {text : String} (h : '=' ∉ text.toList) :
    tokenize text = wordTokens text.toList := tokenizeChars_of_not_mem h

/-- Behind the first `=` of a text all is one literal. -/
theorem tokenizeChars_append_equals {a : List Char} (h : '=' ∉ a) (b : List Char) :
    tokenizeChars (a ++ '=' :: b) =
      wordTokens a ++ .word "=" :: literalTokens (some (plainSpaces b)) := by
  simp [tokenizeChars, lexText_append_equals h]

/-- The text has no literal and no spaces that change, and is cut into the tokens. -/
structure Spells (cs : List Char) (ts : List Token) : Prop where
  plain : ∀ c ∈ cs, c ≠ '=' ∧ c ≠ '\u00A0'
  tokens : wordTokens cs = ts

namespace Spells

variable {a b : List Char} {s t : List Token}

theorem nil : Spells [] [] := ⟨by simp, wordTokens_nil⟩

theorem append_blank (ha : Spells a s) (hb : Spells b t) : Spells (a ++ ' ' :: b) (s ++ t) := by
  constructor
  · intro c hc
    rcases List.mem_append.mp hc with hc | hc
    · exact ha.plain c hc
    rcases List.mem_cons.mp hc with rfl | hc
    · decide
    · exact hb.plain c hc
  · rw [wordTokens_append_blank rfl, ha.tokens, hb.tokens]

theorem append_mark {c : Char} (hc : IsMark c) (ha : Spells a s) (hb : Spells b t) :
    Spells (a ++ c :: b) (s ++ .word (String.singleton c) :: t) := by
  constructor
  · intro d hd
    rcases List.mem_append.mp hd with hd | hd
    · exact ha.plain d hd
    rcases List.mem_cons.mp hd with rfl | hd
    · rcases hc with rfl | rfl | rfl <;> decide
    · exact hb.plain d hd
  · rw [wordTokens_append_mark hc, ha.tokens, hb.tokens]

theorem append_brackets (ha : Spells a s) (n : Nat) :
    Spells (a ++ (List.replicate n ['[', ']']).flatten) (s ++ List.replicate n (.word "[]")) := by
  induction n generalizing a s with
  | zero => simpa using ha
  | succ n ih =>
    have h : Spells (a ++ ['[', ']']) (s ++ [.word "[]"]) := by
      have hbrackets : ∀ c ∈ ['[', ']'], c ≠ '=' ∧ c ≠ '\u00A0' :=
        List.forall_mem_cons.mpr ⟨by decide, List.forall_mem_singleton.mpr (by decide)⟩
      constructor
      · intro c hc
        rcases List.mem_append.mp hc with hc | hc
        · exact ha.plain c hc
        · exact hbrackets c hc
      · rw [wordTokens_append_bracket, ha.tokens, wordTokens_brackets]
    have h' := ih h
    rwa [List.append_assoc, List.append_assoc] at h'

/-- A text of plain characters is one token. -/
theorem word {w : String} (hw : w ≠ "") (h : ∀ c ∈ w.toList, IsPlain c) :
    Spells w.toList [.word w] := by
  constructor
  · intro c hc
    refine ⟨(h c hc).not_equals, ?_⟩
    rintro rfl
    exact absurd (h _ hc).not_blank (by decide)
  · have hne : w.toList ≠ [] := by simpa using hw
    rw [wordTokens_of_forall hne h, String.ofList_toList]

/-- Texts with a comma and a space between them. -/
theorem intercalate {ls : List (List Char)} {tss : List (List Token)}
    (h : List.Forall₂ Spells ls tss) :
    Spells ([',', ' '].intercalate ls) ([.word ","].intercalate tss) := by
  induction h with
  | nil => exact nil
  | @cons l ts ls tss hl hls ih =>
    cases hls with
    | nil => simpa using hl
    | @cons l' ts' ls tss hl' hls =>
      have hrest := nil.append_blank ih
      have h := hl.append_mark (.inr (.inr rfl)) hrest
      rw [List.intercalate_cons_cons, List.intercalate_cons_cons, List.append_assoc,
        List.append_assoc]
      exact h

theorem tokenize_eq {text : String} (h : Spells text.toList t) : tokenize text = t := by
  rw [tokenize_of_not_mem fun hc => (h.plain _ hc).1 rfl, h.tokens]

end Spells

end ApiDoc
