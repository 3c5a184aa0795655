import ApiDoc.Proofs.Shapes
import ApiDoc.Proofs.TypeTexts

/-!
# Array suffixes

A type stands in one text, or as a word with bracket groups behind it.  Either way its name is the
word and its dimensions are the pairs of brackets, however these are grouped:

    qualify package (w ++ suffixText n) = .ok t ↔
      ∃ u, qualify package w = .ok u ∧ t.name = u.name ∧ t.dims = n
    ofTokens package (.word w) (counts.map bracketGroup) = .ok t ↔
      ∃ u, qualify package w = .ok u ∧ t.name = u.name ∧ t.dims = counts.sum

So splitting the suffixes off changes no type (`suffixes_split_off`).
-/

namespace ApiDoc

variable {package w : String}

namespace TypeRef

/-! ## Suffixes in a text -/

theorem suffixText_add (m n : Nat) : suffixText (m + n) = suffixText m ++ suffixText n := by
  rw [← String.toList_inj, String.toList_append]
  simp only [toList_suffixText, List.replicate_add, List.flatten_append]

theorem join_suffixText (counts : List Nat) :
    String.join (counts.map suffixText) = suffixText counts.sum := by
  induction counts with
  | nil => rfl
  | cons n r ih => rw [List.map_cons, String.join_cons, ih, List.sum_cons, suffixText_add]

/-- A text with suffixes is read as what stands in front of them, which has no dimensions itself. -/
theorem parse?_append_suffixText_eq_some_iff (h : '[' ∉ w.toList) {n : Nat} {t : TypeRef} :
    parse? (w ++ suffixText n) = some t ↔
      ∃ u, parse? w = some u ∧ t.name = u.name ∧ t.dims = n := by
  have hword := parse?_append_suffixText h 0
  have hnone : w ++ suffixText 0 = w := String.append_empty
  rw [hnone, dif_pos (Nat.zero_le 255)] at hword
  obtain ⟨name, dims, hdims⟩ := t
  rw [parse?_append_suffixText h, hword]
  by_cases hname : isTypeName (Text.trim w.toList) = true
  · simp only [hname, if_true]
    constructor
    · intro ht
      split at ht
      · cases ht
        exact ⟨_, rfl, rfl, rfl⟩
      · cases ht
    · rintro ⟨u, hu, rfl, rfl⟩
      cases hu
      exact dif_pos hdims
  · simp [hname]

/-- The suffixes of a type token add their dimensions to the type it names. -/
theorem qualify_append_suffixText_eq_ok_iff (h : '[' ∉ w.toList) {n : Nat} {t : TypeRef} :
    qualify package (w ++ suffixText n) = .ok t ↔
      ∃ u, qualify package w = .ok u ∧ t.name = u.name ∧ t.dims = n := by
  obtain ⟨name, dims, hdims⟩ := t
  simp only [qualify_eq_ok_iff, parse?_append_suffixText_eq_some_iff h]
  constructor
  · rintro ⟨v, ⟨u, hu, hname, rfl⟩, ⟨hcomplete, rfl⟩ | ⟨hbare, hv⟩⟩
    · rw [hname] at hcomplete
      exact ⟨u, ⟨u, hu, .inl ⟨hcomplete, rfl⟩⟩, hname, rfl⟩
    · rw [hname] at hbare
      cases hv
      exact ⟨{ u with name := package ++ "." ++ u.name }, ⟨u, hu, .inr ⟨hbare, rfl⟩⟩,
        by rw [hname], rfl⟩
  · rintro ⟨v, ⟨u, hu, ⟨hcomplete, rfl⟩ | ⟨hbare, rfl⟩⟩, hname, rfl⟩
    · exact ⟨⟨name, dims, hdims⟩, ⟨v, hu, hname, rfl⟩, .inl ⟨hname ▸ hcomplete, rfl⟩⟩
    · cases hname
      exact ⟨⟨u.name, dims, hdims⟩, ⟨u, hu, rfl, rfl⟩, .inr ⟨hbare, rfl⟩⟩

/-! ## Bracket groups -/

/-- The token of so many pairs of brackets. -/
def bracketGroup (n : Nat) : Token := .word (suffixText n)

theorem isPairs_bracketGroup_iff {m n : Nat} : IsPairs (bracketGroup m) n ↔ n = m := by
  show (suffixText m).toList = (List.replicate n ['[', ']']).flatten ↔ n = m
  rw [toList_suffixText]
  constructor
  · intro h
    have hlength := congrArg List.length h
    simp only [List.length_flatten, List.map_replicate, List.sum_replicate, List.length_cons,
      List.length_nil, smul_eq_mul] at hlength
    omega
  · rintro rfl
    rfl

theorem forall₂_isPairs_iff {counts pairs : List Nat} :
    List.Forall₂ IsPairs (counts.map bracketGroup) pairs ↔ pairs = counts := by
  induction counts generalizing pairs with
  | nil => exact List.forall₂_nil_left_iff
  | cons n r ih =>
    rw [List.map_cons, List.forall₂_cons_left_iff]
    simp only [isPairs_bracketGroup_iff, ih]
    constructor
    · rintro ⟨_, _, rfl, rfl, rfl⟩
      rfl
    · rintro rfl
      exact ⟨n, r, rfl, rfl, rfl⟩

/-- The bracket groups behind a word add their dimensions to the type it names. -/
theorem ofTokens_bracketGroups_eq_ok_iff (hmark : w ∉ [",", "(", ")"]) (hbracket : '[' ∉ w.toList)
    (hreserved : w ∉ reservedWords) {counts : List Nat} {t : TypeRef} :
    ofTokens package (.word w) (counts.map bracketGroup) = .ok t ↔
      ∃ u, qualify package w = .ok u ∧ t.name = u.name ∧ t.dims = counts.sum := by
  have hbase : (Token.word w).isBrackets = false := by
    show (w.toList.head? == some '[') = false
    rw [beq_eq_false_iff_ne]
    exact fun hhead => hbracket (List.mem_of_head? hhead)
  have hword : w ++ suffixText 0 = w := String.append_empty
  simp only [ofTokens_eq_ok_iff, ofToken_word hmark hbase hreserved, addBrackets_eq_ok_iff,
    forall₂_isPairs_iff, exists_eq_left]
  refine exists_congr fun u => and_congr_right fun hu => and_congr_right fun _ => ?_
  -- without a bracket in it, the word gives no dimensions of its own
  rw [← hword, qualify_append_suffixText_eq_ok_iff hbracket] at hu
  obtain ⟨-, -, -, hdims⟩ := hu
  rw [hdims, Nat.zero_add]

/-- A word that opens with a bracket and is no bracket group stands behind no type. -/
theorem ofTokens_ne_ok_of_mem {base g : Token} {groups : List Token} (hg : g ∈ groups)
    (hbrackets : g.isBrackets = true) (hother : ∀ n, g ≠ bracketGroup n) (t : TypeRef) :
    ofTokens package base groups ≠ .ok t := by
  intro h
  obtain ⟨u, -, hadd⟩ := ofTokens_eq_ok_iff.mp h
  obtain ⟨counts, hpairs, -⟩ := addBrackets_eq_ok_iff.mp hadd
  obtain ⟨k, hk, rfl⟩ := List.getElem_of_mem hg
  have hlength := hpairs.length_eq
  have hpair : IsPairs groups[k] counts[k] := hpairs.get hk (hlength ▸ hk)
  cases htoken : groups[k] with
  | word text =>
    rw [htoken] at hpair hother
    have htext : text = suffixText counts[k] := by
      rw [← String.toList_inj, toList_suffixText]
      exact hpair
    exact hother _ (congrArg Token.word htext)
  | ref q =>
    rw [htoken] at hbrackets
    cases hbrackets
  | literal v =>
    rw [htoken] at hbrackets
    cases hbrackets

/-! ## Splitting -/

/-- A type token and the same word with its suffixes split off into bracket groups, however the pairs
are grouped, are the same type or no type at all.  The dimensions are the pairs of brackets, and with
more than 255 there is no type.  Any other word that opens with a bracket spoils the type. -/
theorem suffixes_split_off (package : String) :
    (∀ (w : String) (counts : List Nat), '[' ∉ w.toList → w ∉ [",", "(", ")"] → w ∉ reservedWords →
      SameOutcome (ofTokens package (.word w) (counts.map bracketGroup))
        (qualify package (w ++ String.join (counts.map suffixText))) ∧
      (∀ t, ofTokens package (.word w) (counts.map bracketGroup) = .ok t ↔
        ∃ u, qualify package w = .ok u ∧ t.name = u.name ∧ t.dims = counts.sum) ∧
      (255 < counts.sum →
        (∃ e, ofTokens package (.word w) (counts.map bracketGroup) = .error e) ∧
        ∃ e, qualify package (w ++ String.join (counts.map suffixText)) = .error e)) ∧
    ∀ (base g : Token) (groups : List Token), g ∈ groups → g.isBrackets = true →
      (∀ n, g ≠ bracketGroup n) → ∃ e, ofTokens package base groups = .error e := by
  constructor
  · intro w counts hbracket hmark hreserved
    rw [join_suffixText]
    have hsplit : ∀ t, ofTokens package (.word w) (counts.map bracketGroup) = .ok t ↔
        ∃ u, qualify package w = .ok u ∧ t.name = u.name ∧ t.dims = counts.sum := fun t =>
      ofTokens_bracketGroups_eq_ok_iff hmark hbracket hreserved
    have hwhole : ∀ t, qualify package (w ++ suffixText counts.sum) = .ok t ↔
        ∃ u, qualify package w = .ok u ∧ t.name = u.name ∧ t.dims = counts.sum := fun t =>
      qualify_append_suffixText_eq_ok_iff hbracket
    refine ⟨sameOutcome_iff.mpr fun t => (hsplit t).trans (hwhole t).symm, hsplit, fun hmany => ?_⟩
    have hnone : ¬∃ t u : TypeRef, qualify package w = .ok u ∧ t.name = u.name ∧
        t.dims = counts.sum := by
      rintro ⟨t, u, -, -, hdims⟩
      have := t.dims_le
      omega
    exact ⟨exists_eq_error_iff.mpr fun t ht => hnone ⟨t, (hsplit t).mp ht⟩,
      exists_eq_error_iff.mpr fun t ht => hnone ⟨t, (hwhole t).mp ht⟩⟩
  · intro base g groups hg hbrackets hother
    exact exists_eq_error_iff.mpr fun t => ofTokens_ne_ok_of_mem hg hbrackets hother t

/-- A bare name with three suffixes in two groups, with one suffix too many, and a link with a group
that is no suffix. -/
theorem suffixes_split_off_of_bareName :
    ofTokens "p" (.word "Map") [.word "[]", .word "[][]"] = .ok ⟨"p.Map", 3, by decide⟩ ∧
      qualify "p" "Map[][][]" = .ok ⟨"p.Map", 3, by decide⟩ ∧
      (∃ e, ofTokens "p" (.word "Map") [bracketGroup 200, bracketGroup 56] = .error e) ∧
      (∃ e, qualify "p" ("Map" ++ String.join [suffixText 200, suffixText 56]) = .error e) ∧
      ∃ e, ofTokens "p" (.ref "q.Map") [.word "[]", .word "[2]"] = .error e := by
  have hbracket : '[' ∉ "Map".toList := by decide
  have hmark : "Map" ∉ [",", "(", ")"] := by decide
  have hreserved : "Map" ∉ reservedWords := by decide
  obtain ⟨hwords, hother⟩ := suffixes_split_off "p"
  obtain ⟨-, hsplit, -⟩ := hwords "Map" [1, 2] hbracket hmark hreserved
  obtain ⟨-, -, hmany⟩ := hwords "Map" [200, 56] hbracket hmark hreserved
  obtain ⟨hsame, -⟩ := hwords "Map" [1, 2] hbracket hmark hreserved
  have hname : qualify "p" "Map" = .ok (ofName "p.Map") := by decide +kernel
  have htype := (hsplit ⟨"p.Map", 3, by decide⟩).mpr ⟨_, hname, rfl, rfl⟩
  obtain ⟨hgroups, hwhole⟩ := hmany (by decide)
  have hdigit : ∀ n, Token.word "[2]" ≠ bracketGroup n := by
    intro n e
    have hmem : '2' ∈ (suffixText n).toList := by
      rw [← Token.word.inj e]
      decide
    exact absurd (mem_suffixText '2' hmem) (by decide)
  exact ⟨htype, (sameOutcome_iff.mp hsame _).mp htype, hgroups, hwhole,
    hother _ _ _ (by simp) rfl hdigit⟩

end TypeRef

end ApiDoc
