import ApiDoc.Declaration.TypeName
import ApiDoc.Proofs.LexedTokens

/-!
# Types as tokens

A name is complete on a page when reading it there as a plain word gives the type of exactly that
name (`CompleteName`).  Every type read from lexed tokens has a complete name
(`TypeRef.completeName_of_ofTokens`), and a type with a complete name is read back from the tokens of
its printed form (`TypeRef.ofTokens_tokens`).
-/

namespace ApiDoc

namespace TypeRef

/-! ## Names of types -/

theorem isTypeName_iff {cs : List Char} :
    isTypeName cs = true ↔ cs ≠ [] ∧ cs.head? ≠ some '.' ∧ cs.getLast? ≠ some '.' ∧
      ∀ c ∈ cs, c = '.' ∨ Text.isNameChar c = true := by
  simp [isTypeName, and_assoc]

theorem isPlain_of_dot_or_isNameChar {c : Char} (h : c = '.' ∨ Text.isNameChar c = true) :
    IsPlain c := by
  rcases h with rfl | hn
  · exact ⟨rfl, by decide, by decide, by decide⟩
  · exact isPlain_of_isNameChar hn

theorem isPlain_of_isTypeName {cs : List Char} (h : isTypeName cs = true) : ∀ c ∈ cs, IsPlain c :=
  fun c hc => isPlain_of_dot_or_isNameChar ((isTypeName_iff.mp h).2.2.2 c hc)

/-- Names go together with a dot between them. -/
theorem isTypeName_append {a b : List Char} (ha : isTypeName a = true) (hb : isTypeName b = true) :
    isTypeName (a ++ '.' :: b) = true := by
  obtain ⟨hane, hahead, -, hachars⟩ := isTypeName_iff.mp ha
  obtain ⟨hbne, -, hblast, hbchars⟩ := isTypeName_iff.mp hb
  refine isTypeName_iff.mpr ⟨by simp, ?_, ?_, ?_⟩
  · rwa [List.head?_append_of_ne_nil _ hane]
  · obtain ⟨x, r, rfl⟩ := List.exists_cons_of_ne_nil hbne
    rwa [List.getLast?_append_of_ne_nil _ (List.cons_ne_nil _ _), List.getLast?_cons_cons]
  · intro c hc
    rcases List.mem_append.mp hc with hc | hc
    · exact hachars c hc
    rcases List.mem_cons.mp hc with rfl | hc
    · exact .inl rfl
    · exact hbchars c hc

/-! ## Reading a text without brackets -/

theorem arraySuffixes_of_not_mem {cs : List Char} (h : '[' ∉ cs) : arraySuffixes cs = (0, cs) := by
  unfold arraySuffixes
  split
  · simp at h
  · rfl

theorem parse?_of_plain {w : String} (hblank : ∀ c ∈ w.toList, Text.isBlank c = false)
    (hbracket : '[' ∉ w.toList) :
    parse? w = if isTypeName w.toList then some (ofName w) else none := by
  have hrev : '[' ∉ w.toList.reverse := fun h => hbracket (List.mem_reverse.mp h)
  unfold parse?
  simp only [Text.trim_of_forall hblank, arraySuffixes_of_not_mem hrev, List.reverse_reverse,
    Nat.zero_le, dif_pos, String.ofList_toList]
  rfl

theorem parse?_of_isTypeName {w : String} (h : isTypeName w.toList = true) :
    parse? w = some (ofName w) := by
  have hplain := isPlain_of_isTypeName h
  rw [parse?_of_plain (fun c hc => (hplain c hc).not_blank)
    (fun hb => (hplain _ hb).not_bracket rfl), if_pos h]

theorem isTypeName_of_parse? {w : String} {t : TypeRef} (h : parse? w = some t) :
    isTypeName t.name.toList = true := by
  simp only [parse?] at h
  split at h
  · split at h
    · next hname =>
      cases h
      rwa [String.toList_ofList]
    · cases h
  · cases h

end TypeRef

/-! ## Complete names -/

/-- No package, or one whose name is read as it is. -/
def IsPackage (package : String) : Prop :=
  package.isEmpty = true ∨ TypeRef.parse? package = some (.ofName package)

/-- The name of a type that is the same on a page of `package` as it is anywhere. -/
structure CompleteName (package name : String) : Prop where
  isTypeName : TypeRef.isTypeName name.toList = true
  not_reserved : isReserved name = false
  qualified : package.isEmpty = true ∨ TypeRef.isPrimitiveName name = true ∨ '.' ∈ name.toList

/-- What the reading of types needs of a token: the form that lexing gives, and a dot in the name that
a link stands for. -/
def Token.IsSound (t : Token) : Prop := t.HasForm ∧ ∀ q, t = .ref q → '.' ∈ q.toList

theorem not_reserved_of_dot {w : String} (h : '.' ∈ w.toList) : isReserved w = false := by
  have hwords : ∀ w ∈ reservedWords, '.' ∉ w.toList := by decide
  rw [isReserved, List.contains_eq_mem, decide_eq_false_iff_not]
  intro hw
  exact hwords w hw h

namespace TypeRef

variable {package : String}

theorem qualify_of_qualified {w : String} (hw : isTypeName w.toList = true)
    (hq : package.isEmpty = true ∨ isPrimitiveName w = true ∨ '.' ∈ w.toList) :
    qualify package w = .ok (ofName w) := by
  have hcond : (package.isEmpty || isPrimitiveName w || w.toList.contains '.') = true := by
    simpa [or_assoc] using hq
  simp only [qualify, parse?_of_isTypeName hw]
  exact if_pos hcond

theorem qualify_of_bare {w : String} (hw : isTypeName w.toList = true)
    (hq : ¬(package.isEmpty = true ∨ isPrimitiveName w = true ∨ '.' ∈ w.toList)) :
    qualify package w = .ok (ofName (package ++ "." ++ w)) := by
  have hcond : ¬(package.isEmpty || isPrimitiveName w || w.toList.contains '.') = true := by
    simpa [or_assoc] using hq
  simp only [qualify, parse?_of_isTypeName hw]
  exact if_neg hcond

/-- A name behind a package is complete. -/
theorem completeName_append {w : String} (hp : isTypeName package.toList = true)
    (hw : isTypeName w.toList = true) : CompleteName package (package ++ "." ++ w) := by
  have hlist : (package ++ "." ++ w).toList = package.toList ++ '.' :: w.toList := by
    simp [String.toList_append]
  have hdot : '.' ∈ (package ++ "." ++ w).toList := by
    rw [hlist]
    simp
  refine ⟨?_, not_reserved_of_dot hdot, .inr (.inr hdot)⟩
  rw [hlist]
  exact isTypeName_append hp hw

/-- A word without blanks and brackets stands for a type with a complete name. -/
theorem completeName_of_qualify {w : String} {t : TypeRef} (hp : IsPackage package)
    (hblank : ∀ c ∈ w.toList, Text.isBlank c = false) (hbracket : '[' ∉ w.toList)
    (hr : isReserved w = false) (h : qualify package w = .ok t) :
    CompleteName package t.name ∧ t.dims = 0 := by
  by_cases hw : isTypeName w.toList = true
  · by_cases hq : package.isEmpty = true ∨ isPrimitiveName w = true ∨ '.' ∈ w.toList
    · rw [qualify_of_qualified hw hq] at h
      obtain rfl := Except.ok.inj h
      exact ⟨⟨hw, hr, hq⟩, rfl⟩
    · rw [qualify_of_bare hw hq] at h
      obtain rfl := Except.ok.inj h
      have hname : isTypeName package.toList = true := by
        rcases hp with hp | hp
        · exact absurd (.inl hp) hq
        · have hname := isTypeName_of_parse? hp
          exact hname
      exact ⟨completeName_append hname hw, rfl⟩
  · have hparse : parse? w = none := by
      rw [parse?_of_plain hblank hbracket, if_neg hw]
    simp only [qualify, hparse] at h
    cases h

/-- The base token of a type gives a complete name, without dimensions. -/
theorem completeName_of_ofToken {base : Token} {t : TypeRef} (hp : IsPackage package)
    (hbase : base.IsSound) (h : ofToken package base = .ok t) :
    CompleteName package t.name ∧ t.dims = 0 := by
  obtain ⟨hform, hdot⟩ := hbase
  cases base with
  | word w =>
    simp only [ofToken] at h
    split at h
    · cases h
    · next hw =>
      simp only [Bool.or_eq_true, not_or, Bool.not_eq_true] at hw
      obtain ⟨⟨-, hb⟩, hr⟩ := hw
      obtain ⟨hblank, htail⟩ := hform
      have hbracket : '[' ∉ w.toList := by
        simp only [Token.isBrackets, beq_eq_false_iff_ne] at hb
        cases hl : w.toList with
        | nil => simp
        | cons x r =>
          rw [hl] at hb htail
          rintro (_ | ⟨_, hmem⟩)
          · exact hb rfl
          · exact htail hmem
      exact completeName_of_qualify hp hblank hbracket hr h
  | ref q =>
    have hplain : ∀ c ∈ q.toList, IsPlain c := fun c hc => isPlain_of_dot_or_isNameChar (hform c hc)
    have hparse := parse?_of_plain (fun c hc => (hplain c hc).not_blank)
      (fun hb => (hplain _ hb).not_bracket rfl)
    simp only [ofToken, hparse] at h
    by_cases hq : isTypeName q.toList = true
    · simp only [if_pos hq] at h
      cases h
      have hd := hdot q rfl
      exact ⟨⟨hq, not_reserved_of_dot hd, .inr (.inr hd)⟩, rfl⟩
    · simp only [if_neg hq] at h
      cases h
  | literal text => cases h

theorem name_addBrackets {base : Token} {t u : TypeRef} {gs : List Token}
    (h : addBrackets base t gs = .ok u) : u.name = t.name := by
  induction gs generalizing t with
  | nil =>
    cases h
    rfl
  | cons g r ih =>
    simp only [addBrackets] at h
    split at h
    · cases h
    · split at h
      · have hname := ih h
        exact hname
      · cases h

theorem ofTokens_eq_ok_iff {base : Token} {gs : List Token} {t : TypeRef} :
    ofTokens package base gs = .ok t ↔
      ∃ u, ofToken package base = .ok u ∧ addBrackets base u gs = .ok t := by
  unfold ofTokens
  cases ofToken package base with
  | error e => simp
  | ok u => simp

/-- A type read from lexed tokens has a complete name. -/
theorem completeName_of_ofTokens {base : Token} {gs : List Token} {t : TypeRef}
    (hp : IsPackage package) (hbase : base.IsSound) (h : ofTokens package base gs = .ok t) :
    CompleteName package t.name := by
  obtain ⟨u, hu, ht⟩ := ofTokens_eq_ok_iff.mp h
  rw [name_addBrackets ht]
  exact (completeName_of_ofToken hp hbase hu).1

/-! ## The tokens of a printed type -/

/-- The name, and one bracket group for each dimension. -/
def tokens (t : TypeRef) : List Token := .word t.name :: List.replicate t.dims (.word "[]")

theorem spells_print {t : TypeRef} (h : isTypeName t.name.toList = true) :
    Spells t.print.toList t.tokens := by
  have hne : t.name ≠ "" := by
    intro e
    rw [e] at h
    cases h
  have hlist : t.print.toList = t.name.toList ++ (List.replicate t.dims ['[', ']']).flatten := by
    simp [print, String.toList_append, String.toList_join, List.flatMap]
  rw [hlist]
  exact (Spells.word hne (isPlain_of_isTypeName h)).append_brackets t.dims

theorem isBrackets_of_isTypeName {w : String} (h : isTypeName w.toList = true) :
    (Token.word w).isBrackets = false := by
  simp only [Token.isBrackets, beq_eq_false_iff_ne]
  intro hhead
  exact (isPlain_of_isTypeName h _ (List.mem_of_head? hhead)).not_bracket rfl

/-- A complete name is read as it is. -/
theorem ofToken_of_completeName {name : String} (h : CompleteName package name) :
    ofToken package (.word name) = .ok (ofName name) := by
  have hplain := isPlain_of_isTypeName h.isTypeName
  have hne : ∀ c, IsMark c → name ≠ String.singleton c := by
    rintro c hc rfl
    exact (hplain c (by simp)).not_mark hc
  have hcomma : name ≠ "," := hne ',' (by decide)
  have hopen : name ≠ "(" := hne '(' (by decide)
  have hclose : name ≠ ")" := hne ')' (by decide)
  simp only [ofToken, beq_eq_false_iff_ne.mpr hcomma, beq_eq_false_iff_ne.mpr hopen,
    beq_eq_false_iff_ne.mpr hclose, isBrackets_of_isTypeName h.isTypeName, h.not_reserved,
    Bool.or_false, Bool.false_eq_true, if_false]
  exact qualify_of_qualified h.isTypeName h.qualified

theorem addBrackets_replicate {base : Token} {t : TypeRef} {n : Nat} (h : t.dims + n ≤ 255) :
    addBrackets base t (List.replicate n (.word "[]")) = .ok ⟨t.name, t.dims + n, h⟩ := by
  induction n generalizing t with
  | zero => rfl
  | succ n ih =>
    have hpairs : bracketPairs? (Token.word "[]").text.toList = some 1 := by decide
    have hone : t.dims + 1 ≤ 255 := by omega
    have hrest : t.dims + 1 + n ≤ 255 := by omega
    rw [List.replicate_succ, addBrackets]
    simp only [hpairs, dif_pos hone]
    rw [ih hrest]
    congr 2
    show t.dims + 1 + n = t.dims + (n + 1)
    omega

/-- A type with a complete name is read back from the tokens of its printed form. -/
theorem ofTokens_tokens {t : TypeRef} (h : CompleteName package t.name) :
    ofTokens package (.word t.name) (List.replicate t.dims (.word "[]")) = .ok t := by
  have hdims : (ofName t.name).dims + t.dims ≤ 255 := by
    show 0 + t.dims ≤ 255
    have := t.dims_le
    omega
  rw [ofTokens_eq_ok_iff]
  refine ⟨ofName t.name, ofToken_of_completeName h, ?_⟩
  rw [addBrackets_replicate hdims]
  obtain ⟨name, dims, _⟩ := t
  simp [ofName]

end TypeRef

end ApiDoc
