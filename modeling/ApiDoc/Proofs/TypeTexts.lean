import ApiDoc.Proofs.TypeTokens

/-!
# Texts that are read as types

A text that is read as a type is the name of the type with one group `[]` behind it for each
dimension, and blanks at the ends of the text and in front of the groups (`exists_of_parse?`).  So
cutting the text gives the tokens of the type (`wordTokens_of_parse?`).  The printed form of a
type is read as that type (`parse?_print`), so types that are read differ in their printed forms.
-/

namespace ApiDoc

namespace TypeRef

/-! ## Array suffixes -/

/-- Array suffixes are groups `[]` with blanks in front of each. -/
theorem exists_gaps (cs : List Char) : ∃ gaps : List (List Char),
    cs.reverse = (arraySuffixes cs).2.reverse ++ gaps.flatMap (· ++ ['[', ']']) ∧
      gaps.length = (arraySuffixes cs).1 ∧ ∀ g ∈ gaps, ∀ c ∈ g, Text.isBlank c = true := by
  induction cs using arraySuffixes.induct with
  | case1 r ih =>
    obtain ⟨gaps, hr, hlength, hblank⟩ := ih
    obtain ⟨b, hb, hbblank⟩ := Text.exists_trimEnd r.reverse
    have htrim : Text.trimEnd r.reverse = (r.dropWhile Text.isBlank).reverse := by
      rw [Text.trimEnd, List.reverse_reverse]
    rw [htrim, hr] at hb
    rw [arraySuffixes]
    refine ⟨gaps ++ [b], by simp [hb], by simp [hlength], ?_⟩
    intro g hg
    rcases List.mem_append.mp hg with hg | hg
    · exact hblank g hg
    · rw [List.mem_singleton.mp hg]
      exact hbblank
  | case2 cs h =>
    rw [arraySuffixes.eq_2 cs h]
    exact ⟨[], by simp, rfl, by simp⟩

theorem arraySuffixes_append_brackets (cs : List Char) :
    arraySuffixes (cs ++ ['[', ']']).reverse =
      ((arraySuffixes (Text.trimEnd cs).reverse).1 + 1, (arraySuffixes (Text.trimEnd cs).reverse).2) := by
  rw [List.reverse_append]
  show arraySuffixes (']' :: '[' :: cs.reverse) = _
  rw [arraySuffixes, Text.trimEnd, List.reverse_reverse]

/-- All groups behind a text without brackets are counted, and the blanks in front of them are
taken off. -/
theorem arraySuffixes_append_gaps {cs : List Char} (h : '[' ∉ cs) {gaps : List (List Char)}
    (hblank : ∀ g ∈ gaps, ∀ c ∈ g, Text.isBlank c = true) :
    arraySuffixes (Text.trimEnd (cs ++ gaps.flatMap (· ++ ['[', ']']))).reverse =
      (gaps.length, (Text.trimEnd cs).reverse) := by
  -- the groups are counted from the end of the text
  induction gaps using List.reverseRecOn with
  | nil =>
    obtain ⟨b, hb, -⟩ := Text.exists_trimEnd cs
    rw [List.flatMap_nil, List.append_nil, arraySuffixes_of_not_mem, List.length_nil]
    intro hmem
    rw [hb] at h
    exact h (List.mem_append_left b (List.mem_reverse.mp hmem))
  | append_singleton gaps g ih =>
    obtain ⟨hgaps, hg⟩ := List.forall_mem_append.mp hblank
    have hlast : cs ++ (gaps ++ [g]).flatMap (· ++ ['[', ']']) =
        (cs ++ gaps.flatMap (· ++ ['[', ']'])) ++ g ++ ['[', ']'] := by simp
    rw [hlast, Text.trimEnd_append_of_forall _ (List.cons_ne_nil _ _) Text.isBlank_brackets,
      arraySuffixes_append_brackets,
      Text.trimEnd_append_of_blank _ (List.forall_mem_singleton.mp hg), ih hgaps,
      List.length_append, List.length_singleton]

/-- Trimmed, a text that is read as a type is its name and its groups. -/
theorem trim_of_parse? {text : String} {t : TypeRef} (h : parse? text = some t) :
    ∃ gaps : List (List Char),
      Text.trim text.toList = t.name.toList ++ gaps.flatMap (· ++ ['[', ']']) ∧
        gaps.length = t.dims ∧ ∀ g ∈ gaps, ∀ c ∈ g, Text.isBlank c = true := by
  obtain ⟨gaps, hgaps, hlength, hblank⟩ := exists_gaps (Text.trim text.toList).reverse
  rw [List.reverse_reverse] at hgaps
  simp only [parse?] at h
  split at h
  · split at h
    · cases h
      exact ⟨gaps, by rwa [String.toList_ofList], hlength, hblank⟩
    · cases h
  · cases h

/-- A text that is read as a type is its name and its groups, with blanks around. -/
theorem exists_of_parse? {text : String} {t : TypeRef} (h : parse? text = some t) :
    ∃ (a b : List Char) (gaps : List (List Char)),
      text.toList = a ++ (t.name.toList ++ gaps.flatMap (· ++ ['[', ']']) ++ b) ∧
        gaps.length = t.dims ∧ (∀ c ∈ a, Text.isBlank c = true) ∧
        (∀ c ∈ b, Text.isBlank c = true) ∧ ∀ g ∈ gaps, ∀ c ∈ g, Text.isBlank c = true := by
  obtain ⟨a, b, htext, ha, hb⟩ := Text.exists_trim text.toList
  obtain ⟨gaps, hgaps, hlength, hblank⟩ := trim_of_parse? h
  exact ⟨a, b, gaps, by rwa [hgaps] at htext, hlength, ha, hb, hblank⟩

/-! ## Characters and tokens -/

/-- A character that is neither blank, a bracket, a dot nor of a name occurs in no text that is read
as a type. -/
theorem mem_of_parse? {text : String} {t : TypeRef} (h : parse? text = some t) :
    ∀ c ∈ text.toList,
      Text.isBlank c = true ∨ c ∈ ['[', ']'] ∨ c = '.' ∨ Text.isNameChar c = true := by
  obtain ⟨a, b, gaps, htext, -, ha, hb, hblank⟩ := exists_of_parse? h
  have hname := (isTypeName_iff.mp (isTypeName_of_parse? h)).2.2.2
  rw [htext]
  intro c hc
  simp only [List.mem_append, List.mem_flatMap] at hc
  rcases hc with hc | (hc | ⟨g, hg, hc | hc⟩) | hc
  · exact .inl (ha c hc)
  · exact .inr (.inr (hname c hc))
  · exact .inl (hblank g hg c hc)
  · exact .inr (.inl hc)
  · exact .inl (hb c hc)

theorem not_mem_of_parse? {text : String} {t : TypeRef} (h : parse? text = some t) :
    ∀ c ∈ ['=', '#'], c ∉ text.toList := by
  have hother : ∀ c ∈ ['=', '#'], ¬(Text.isBlank c = true ∨ c ∈ ['[', ']'] ∨ c = '.' ∨
      Text.isNameChar c = true) :=
    List.forall_mem_cons.mpr ⟨by decide +kernel, List.forall_mem_singleton.mpr (by decide +kernel)⟩
  exact fun c hc hmem => hother c hc (mem_of_parse? h c hmem)

theorem wordTokens_append_gaps (cs : List Char) {gaps : List (List Char)}
    (hblank : ∀ g ∈ gaps, ∀ c ∈ g, Text.isBlank c = true) :
    wordTokens (cs ++ gaps.flatMap (· ++ ['[', ']'])) =
      wordTokens cs ++ List.replicate gaps.length (.word "[]") := by
  induction gaps generalizing cs with
  | nil => simp
  | cons g gaps ih =>
    obtain ⟨hg, hgaps⟩ := List.forall_mem_cons.mp hblank
    have hlist : cs ++ (g :: gaps).flatMap (· ++ ['[', ']']) =
        ((cs ++ g) ++ ['[', ']']) ++ gaps.flatMap (· ++ ['[', ']']) := by simp
    rw [hlist, ih _ hgaps, wordTokens_append_bracket, wordTokens_append_of_blank cs hg,
      wordTokens_brackets, List.append_assoc]
    rfl

/-- A text that is read as a type is cut into the tokens of the type. -/
theorem wordTokens_of_parse? {text : String} {t : TypeRef} (h : parse? text = some t) :
    wordTokens text.toList = t.tokens := by
  obtain ⟨a, b, gaps, htext, hlength, ha, hb, hblank⟩ := exists_of_parse? h
  have hname := isTypeName_of_parse? h
  have hne : t.name.toList ≠ [] := (isTypeName_iff.mp hname).1
  rw [htext, wordTokens_append_of_blank_left ha, wordTokens_append_of_blank _ hb,
    wordTokens_append_gaps _ hblank, wordTokens_of_forall hne (isPlain_of_isTypeName hname),
    String.ofList_toList, hlength]
  rfl

/-! ## Suffixes behind a name -/

/-- The text of so many array suffixes. -/
def suffixText (n : Nat) : String := String.join (List.replicate n "[]")

theorem toList_suffixText (n : Nat) :
    (suffixText n).toList = (List.replicate n ['[', ']']).flatten := by
  unfold suffixText
  rw [String.toList_join, List.flatMap_def, List.map_replicate]
  rfl

theorem mem_suffixText {n : Nat} : ∀ c ∈ (suffixText n).toList, c ∈ ['[', ']'] := by
  intro c hc
  rw [toList_suffixText] at hc
  obtain ⟨pair, hpair, hc⟩ := List.mem_flatten.mp hc
  rwa [List.eq_of_mem_replicate hpair] at hc

/-- A text of a name with suffixes behind it is read as the trimmed name with a dimension for each
suffix, of which a type has no more than 255. -/
theorem parse?_append_suffixText {w : String} (h : '[' ∉ w.toList) (n : Nat) :
    parse? (w ++ suffixText n) =
      if hn : n ≤ 255 then
        if isTypeName (Text.trim w.toList) then
          some ⟨String.ofList (Text.trim w.toList), n, hn⟩
        else none
      else none := by
  have hblank : ∀ c ∈ (suffixText n).toList, Text.isBlank c = false :=
    fun c hc => Text.isBlank_brackets c (mem_suffixText c hc)
  have hgaps : (suffixText n).toList = (List.replicate n []).flatMap (· ++ ['[', ']']) := by
    rw [toList_suffixText, List.flatMap_def, List.map_replicate]
    rfl
  have hstart : '[' ∉ Text.trimStart w.toList := fun hmem =>
    h ((List.dropWhile_sublist _).mem hmem)
  have hsuffixes : arraySuffixes (Text.trim (w ++ suffixText n).toList).reverse =
      (n, (Text.trim w.toList).reverse) := by
    rw [String.toList_append, Text.trim, Text.trimStart_append_of_forall _ hblank, hgaps,
      arraySuffixes_append_gaps hstart (by simp), List.length_replicate]
    rfl
  unfold parse?
  simp only [hsuffixes, List.reverse_reverse]

/-! ## Printed types -/

theorem print_eq (t : TypeRef) : t.print = t.name ++ suffixText t.dims := rfl

theorem mem_print {t : TypeRef} (h : isTypeName t.name.toList = true) :
    ∀ c ∈ t.print.toList, c ∈ ['[', ']'] ∨ c = '.' ∨ Text.isNameChar c = true := by
  intro c hc
  rw [print_eq, String.toList_append] at hc
  rcases List.mem_append.mp hc with hc | hc
  · exact .inr ((isTypeName_iff.mp h).2.2.2 c hc)
  · exact .inl (mem_suffixText c hc)

/-- The printed form of a type is read as the type. -/
theorem parse?_print {t : TypeRef} (h : isTypeName t.name.toList = true) :
    parse? t.print = some t := by
  have hplain := isPlain_of_isTypeName h
  have hbracket : '[' ∉ t.name.toList := fun hmem => (hplain _ hmem).not_bracket rfl
  have htrim := Text.trim_of_forall fun c hc => (hplain c hc).not_blank
  rw [print_eq, parse?_append_suffixText hbracket, dif_pos t.dims_le, htrim, if_pos h,
    String.ofList_toList]

/-- A type that some text is read as. -/
def IsRead (t : TypeRef) : Prop := ∃ text, parse? text = some t

theorem isRead_iff {t : TypeRef} : t.IsRead ↔ isTypeName t.name.toList = true :=
  ⟨fun ⟨_, h⟩ => isTypeName_of_parse? h, fun h => ⟨t.print, parse?_print h⟩⟩

instance : DecidablePred IsRead := fun _ => decidable_of_iff _ isRead_iff.symm

/-- A type that is read from a text is told by its printed form. -/
theorem IsRead.print_inj {t u : TypeRef} (ht : t.IsRead) (hu : u.IsRead) :
    t.print = u.print ↔ t = u := by
  constructor
  · intro h
    have hprint := parse?_print (isRead_iff.mp ht)
    rw [h, parse?_print (isRead_iff.mp hu)] at hprint
    exact (Option.some.inj hprint).symm
  · rintro rfl
    rfl

end TypeRef

end ApiDoc
