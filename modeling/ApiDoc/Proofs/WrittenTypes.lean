import ApiDoc.Proofs.WrittenRegistries

/-!
# How types are written

Trimmed, a text that is read as a type is a name with groups `[]` behind it, blanks allowed in front
of each (`IsWritten`):

    parse? text = some t ↔ IsWritten text t.name t.dims             (parse?_eq_some_iff)

So a text is such a name with such a number of groups in one way at most.  The printed form of a type
is the text without blanks.  Nothing in it is escaped when it is written as a JSON string
(`compact_toJson`), and the string is read as the type again.
-/

namespace ApiDoc

/-! ## Strings that are written as they are -/

namespace Json

/-- The code points of the characters that are escaped. -/
def escapedCodes : List Nat := 0x22 :: 0x5C :: List.range 32

theorem escape_of_not_mem {c : Char} (h : c.toNat ∉ escapedCodes) : escape c = [c] := by
  have hchar : ∀ d : Char, d.toNat ∈ escapedCodes → c ≠ d := by
    rintro d hd rfl
    exact h hd
  have hcode : ∀ n ∈ escapedCodes, c.toNat ≠ n := by
    rintro n hn rfl
    exact h hn
  have hcontrol : ¬c.toNat < 32 := fun hlt =>
    h (List.mem_cons_of_mem _ (List.mem_cons_of_mem _ (List.mem_range.mpr hlt)))
  unfold escape
  rw [if_neg (hchar '"' (by decide)), if_neg (hchar '\\' (by decide)),
    if_neg (hchar '\n' (by decide)), if_neg (hchar '\r' (by decide)),
    if_neg (hchar '\t' (by decide)), if_neg (hcode 8 (by decide)), if_neg (hcode 12 (by decide)),
    if_neg hcontrol]

theorem isNameChar_escapedCodes : ∀ n ∈ escapedCodes, Text.isNameChar (Char.ofNat n) = false := by
  decide +kernel

theorem escape_of_isNameChar {c : Char} (h : Text.isNameChar c = true) : escape c = [c] :=
  escape_of_not_mem (Text.toNat_not_mem_of_isNameChar isNameChar_escapedCodes h)

/-- A string of which nothing is escaped is written between quotes. -/
theorem quote_of_forall {s : String} (h : ∀ c ∈ s.toList, escape c = [c]) :
    quote s = "\"" ++ s ++ "\"" := by
  have hchars : s.toList.flatMap escape = s.toList := by
    rw [List.flatMap_congr h, List.flatMap_singleton']
  rw [quote, hchars, String.ofList_toList]

end Json

namespace TypeRef

/-! ## The texts of types -/

/-- Letters, digits, dots, `$` and `_`, at least one of them, and no dot at either end. -/
structure IsName (cs : List Char) : Prop where
  ne_nil : cs ≠ []
  chars : ∀ c ∈ cs, Text.isAlphanumeric c = true ∨ c ∈ ['.', '$', '_']
  head_ne_dot : cs.head? ≠ some '.'
  last_ne_dot : cs.getLast? ≠ some '.'

theorem isName_iff {cs : List Char} : IsName cs ↔ isTypeName cs = true := by
  have hchar : ∀ c, (c = '.' ∨ Text.isNameChar c = true) ↔
      (Text.isAlphanumeric c = true ∨ c ∈ ['.', '$', '_']) := by
    intro c
    simp only [Text.isNameChar, Bool.or_eq_true, beq_iff_eq, List.mem_cons, List.not_mem_nil,
      or_false]
    tauto
  rw [isTypeName_iff]
  simp only [hchar]
  exact ⟨fun h => ⟨h.ne_nil, h.head_ne_dot, h.last_ne_dot, h.chars⟩,
    fun ⟨hne, hhead, hlast, hchars⟩ => ⟨hne, hchars, hhead, hlast⟩⟩

/-- Trimmed, the text is the name with `n` groups `[]` behind it, at most 255, each with any blanks
in front. -/
structure IsWritten (text name : String) (n : Nat) : Prop where
  isName : IsName name.toList
  le : n ≤ 255
  groups : ∃ gaps : List (List Char), gaps.length = n ∧
    (∀ g ∈ gaps, ∀ c ∈ g, Text.isBlank c = true) ∧
    Text.trim text.toList = name.toList ++ gaps.flatMap (· ++ ['[', ']'])

variable {text : String} {t : TypeRef}

theorem isWritten_of_parse? (h : parse? text = some t) : IsWritten text t.name t.dims := by
  obtain ⟨gaps, htext, hlength, hblank⟩ := trim_of_parse? h
  exact ⟨isName_iff.mpr (isTypeName_of_parse? h), t.dims_le, gaps, hlength, hblank, htext⟩

theorem IsWritten.parse?_eq {name : String} {n : Nat} (h : IsWritten text name n) :
    parse? text = some ⟨name, n, h.le⟩ := by
  obtain ⟨gaps, hlength, hblank, htext⟩ := h.groups
  have hname := isName_iff.mp h.isName
  have hplain := isPlain_of_isTypeName hname
  have hbracket : '[' ∉ name.toList := fun hmem => (hplain _ hmem).not_bracket rfl
  have hend : Text.trimEnd name.toList = name.toList :=
    Text.trimEnd_append_of_forall [] h.isName.ne_nil fun c hc => (hplain c hc).not_blank
  have hsuffixes : arraySuffixes (Text.trim text.toList).reverse = (n, name.toList.reverse) := by
    rw [← Text.trimEnd_trim, htext, arraySuffixes_append_gaps hbracket hblank, hlength, hend]
  unfold parse?
  simp only [hsuffixes, List.reverse_reverse, dif_pos h.le, if_pos hname, String.ofList_toList]

/-- A text is read as a type exactly if it is written as the name and the dimensions of the type. -/
theorem parse?_eq_some_iff : parse? text = some t ↔ IsWritten text t.name t.dims :=
  ⟨isWritten_of_parse?, fun h => h.parse?_eq⟩

/-! ## Types as JSON strings -/

/-- The type that a JSON string is read as. -/
def ofJson? : Json → Option TypeRef
  | .string s => parse? s
  | _ => none

/-- A type is written as its printed form between quotes. -/
theorem compact_toJson (h : t.IsRead) : t.toJson.compact = "\"" ++ t.print ++ "\"" := by
  apply Json.quote_of_forall
  intro c hc
  rcases mem_print (isRead_iff.mp h) c hc with hc | rfl | hc
  · have hbrackets : ∀ c ∈ ['[', ']'], Json.escape c = [c] :=
      List.forall_mem_cons.mpr ⟨rfl, List.forall_mem_singleton.mpr rfl⟩
    exact hbrackets c hc
  · rfl
  · exact Json.escape_of_isNameChar hc

/-! ## Reading and printing -/

/-- A text is read as a type exactly if it is written as a name with at most 255 dimensions, which
are then the name and the dimensions of the type.  The type is read again from its printed form and
from the JSON string of it, and these tell it from every other type that is read. -/
theorem types_read_as_written (text : String) :
    ((∃ t, parse? text = some t) ↔ ∃ name n, IsWritten text name n) ∧
    ∀ t, parse? text = some t →
      (∀ name n, IsWritten text name n ↔ name = t.name ∧ n = t.dims) ∧
      parse? t.print = some t ∧
      t.toJson.compact = "\"" ++ t.print ++ "\"" ∧ ofJson? t.toJson = some t ∧
      ∀ other u, parse? other = some u → u ≠ t →
        u.print ≠ t.print ∧ u.toJson.compact ≠ t.toJson.compact := by
  constructor
  · constructor
    · rintro ⟨t, ht⟩
      exact ⟨t.name, t.dims, isWritten_of_parse? ht⟩
    · rintro ⟨name, n, h⟩
      exact ⟨_, h.parse?_eq⟩
  · intro t ht
    have hread : t.IsRead := ⟨text, ht⟩
    have hprint := parse?_print (isRead_iff.mp hread)
    refine ⟨fun name n => ⟨fun h => ?_, ?_⟩, hprint, compact_toJson hread, hprint, ?_⟩
    · rw [h.parse?_eq, Option.some.injEq] at ht
      subst ht
      exact ⟨rfl, rfl⟩
    · rintro ⟨rfl, rfl⟩
      exact isWritten_of_parse? ht
    · intro other u hu hne
      have hother : u.IsRead := ⟨other, hu⟩
      exact ⟨fun h => hne ((hother.print_inj hread).mp h),
        fun h => hne (toJson_injOn hother hread (Json.compact_inj.mp h))⟩

/-- A nested class with blanks of several kinds around the groups behind it, and another type. -/
theorem types_read_as_written_of_spacedText :
    let t : TypeRef := ⟨"java.util.Map$Entry", 2, by decide⟩
    let u : TypeRef := ⟨"java.util.Map$Entry", 1, by decide⟩
    parse? "\u00A0java.util.Map$Entry []\u3000\t[]\n" = some t ∧
      parse? "java.util.Map$Entry[]" = some u ∧ u ≠ t ∧
      (∀ name n, IsWritten "\u00A0java.util.Map$Entry []\u3000\t[]\n" name n ↔
        name = "java.util.Map$Entry" ∧ n = 2) ∧
      parse? "java.util.Map$Entry[][]" = some t ∧
      t.toJson.compact = "\"java.util.Map$Entry[][]\"" ∧ u.print ≠ t.print := by
  intro t u
  have hname : IsName t.name.toList := isName_iff.mpr (by decide +kernel)
  have hblank : ∀ g ∈ [[' '], ['\u3000', '\t']], ∀ c ∈ g, Text.isBlank c = true :=
    List.forall_mem_cons.mpr ⟨List.forall_mem_singleton.mpr rfl, List.forall_mem_singleton.mpr
      (List.forall_mem_cons.mpr ⟨rfl, List.forall_mem_singleton.mpr rfl⟩)⟩
  have ht : parse? "\u00A0java.util.Map$Entry []\u3000\t[]\n" = some t :=
    parse?_eq_some_iff.mpr ⟨hname, by decide, _, rfl, hblank, by decide +kernel⟩
  have hu : parse? "java.util.Map$Entry[]" = some u :=
    parse?_eq_some_iff.mpr ⟨hname, by decide, [[]], rfl, by simp, by decide +kernel⟩
  have hne : u ≠ t := by decide
  obtain ⟨-, hread⟩ := types_read_as_written "\u00A0java.util.Map$Entry []\u3000\t[]\n"
  obtain ⟨hwritten, hprint, hjson, -, hother⟩ := hread t ht
  exact ⟨ht, hu, hne, hwritten, hprint, hjson, (hother _ u hu hne).1⟩

end TypeRef

end ApiDoc
