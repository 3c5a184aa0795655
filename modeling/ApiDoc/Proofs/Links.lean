import ApiDoc.ClassModel
import ApiDoc.Proofs.References
import ApiDoc.Proofs.TypeTexts

/-!
# Links and written names

A link and a written name are read by different rules: a link is followed from the directory of the
package, a written name without a dot belongs to the package of the page.  The two agree where the
linked page lies in some directory, or the page with the link in none (`qualify_resolved_iff`).

The page of a class lies in the directory of its package under the simple name of the class.  The link
to it leads to the class exactly if no character of the name has to be encoded and the simple name has
no dot (`resolveLink_page_iff`):

    resolveLink package (name ++ ".html") = .ok (qualifiedName package name) ↔ IsLinkable package name
-/

namespace ApiDoc

/-! ## The name a link leads to -/

namespace TypeRef

theorem isTypeName_of_forall {s : List Char} (hne : s ≠ [])
    (h : ∀ c ∈ s, Text.isNameChar c = true) : isTypeName s = true := by
  have hdot : ∀ c ∈ s, c ≠ '.' := by
    rintro c hc rfl
    have := h _ hc
    exact absurd this (by decide)
  refine isTypeName_iff.mpr ⟨hne, fun he => ?_, fun he => ?_, fun c hc => .inr (h c hc)⟩
  · exact hdot _ (List.mem_of_head? he) rfl
  · exact hdot _ (List.mem_of_getLast? he) rfl

/-- Parts of name characters make up a name with dots between them. -/
theorem isTypeName_intercalate {parts : List (List Char)} (hne : parts ≠ [])
    (h : ∀ p ∈ parts, p ≠ [] ∧ ∀ c ∈ p, Text.isNameChar c = true) :
    isTypeName (['.'].intercalate parts) = true := by
  induction parts with
  | nil => exact absurd rfl hne
  | cons p r ih =>
    obtain ⟨⟨hp, hchars⟩, hr⟩ := List.forall_mem_cons.mp h
    have hfirst := isTypeName_of_forall hp hchars
    cases r with
    | nil => rwa [List.intercalate_singleton]
    | cons q r =>
      rw [List.intercalate_cons_cons, List.append_assoc]
      exact isTypeName_append hfirst (ih (by simp) hr)

end TypeRef

/-- The path of the page a link leads to. -/
def linkedPath? (package href : String) : Option FileUrl.Segments :=
  FileUrl.join? (packageDirectory package) (Text.trim href.toList)

section
variable {package href q : String}

/-- A link leads to a name with one part for each segment of the path. -/
theorem exists_parts_of_resolveLink (h : resolveLink package href = .ok q) :
    ∃ path parts, linkedPath? package href = some path ∧ parts.length = path.length ∧
      q.toList = ['.'].intercalate parts ∧ parts ≠ [] ∧
      ∀ p ∈ parts, p ≠ [] ∧ ∀ c ∈ p, Text.isNameChar c = true := by
  unfold resolveLink at h
  split at h
  · next parts hparts =>
    cases h
    obtain ⟨path, hpath, hparts⟩ := Option.bind_eq_some_iff.mp hparts
    refine ⟨path, parts, hpath, ?_, String.toList_ofList, parts_of_nameParts? hparts⟩
    simp only [nameParts?, Option.bind_eq_bind, Option.bind_eq_some_iff] at hparts
    obtain ⟨last, hlast, stem, -, hparts⟩ := hparts
    have hne : path ≠ [] := by
      rintro rfl
      cases hlast
    have := List.length_pos_iff.mpr hne
    split at hparts
    · cases hparts
      simp only [List.length_append, List.length_dropLast, List.length_map, List.length_singleton]
      omega
    · cases hparts
  · cases h

theorem isTypeName_of_resolveLink (h : resolveLink package href = .ok q) :
    TypeRef.isTypeName q.toList = true := by
  obtain ⟨-, parts, -, -, hq, hne, hparts⟩ := exists_parts_of_resolveLink h
  rw [hq]
  exact TypeRef.isTypeName_intercalate hne hparts

/-- The name has a dot exactly if the page lies in a directory. -/
theorem dot_mem_iff_of_resolveLink (h : resolveLink package href = .ok q) :
    '.' ∈ q.toList ↔ ∃ path, linkedPath? package href = some path ∧ 1 < path.length := by
  obtain ⟨path, parts, hpath, hlength, hq, hne, hparts⟩ := exists_parts_of_resolveLink h
  have hpaths : (∃ found, linkedPath? package href = some found ∧ 1 < found.length) ↔
      1 < parts.length := by
    simp [hpath, hlength]
  rw [hpaths, hq]
  match parts, hne with
  | [p], _ =>
    have hp := (hparts p List.mem_cons_self).2
    rw [List.intercalate_singleton]
    constructor
    · intro hdot
      exact absurd (hp _ hdot) (by decide)
    · intro hlt
      simp at hlt
  | p :: r :: rest, _ =>
    rw [List.intercalate_cons_cons]
    simp

end

namespace TypeRef

theorem append_dot_append_ne (package w : String) : package ++ "." ++ w ≠ w := by
  intro h
  have hlength := congrArg String.length h
  simp only [String.length_append, show ".".length = 1 from rfl] at hlength
  omega

/-- A written name that gets the package in front is another name. -/
theorem qualify_eq_ofName_iff {package w : String} (hw : isTypeName w.toList = true) :
    qualify package w = .ok (ofName w) ↔
      package.isEmpty = true ∨ isPrimitiveName w = true ∨ '.' ∈ w.toList := by
  by_cases hq : package.isEmpty = true ∨ isPrimitiveName w = true ∨ '.' ∈ w.toList
  · exact iff_of_true (qualify_of_qualified hw hq) hq
  · refine iff_of_false (fun h => ?_) hq
    rw [qualify_of_bare hw hq] at h
    exact append_dot_append_ne package w (congrArg TypeRef.name (Except.ok.inj h))

/-- A word that is read as a type of just this name is not reserved, and stands for the name. -/
theorem qualify_of_ofToken {package w : String} {t : TypeRef} (hw : isTypeName w.toList = true)
    (h : ofToken package (.word w) = .ok t) (hname : t.name = w) :
    isReserved w = false ∧ qualify package w = .ok (ofName w) := by
  simp only [ofToken] at h
  split at h
  · cases h
  · next hcond =>
    simp only [Bool.or_eq_true, not_or, Bool.not_eq_true] at hcond
    refine ⟨hcond.2, (qualify_eq_ofName_iff hw).mpr (by_contra fun hq => ?_)⟩
    rw [qualify_of_bare hw hq] at h
    exact append_dot_append_ne package w ((congrArg TypeRef.name (Except.ok.inj h)).trans hname)

end TypeRef

/-- A link and its name written on the same page stand for one type exactly if the page of the type lies
in some directory, or the name would not get the package in front anyway.  A type that is linked, with
any number of dimensions, is then read back from its printed form, unless its name is reserved. -/
theorem qualify_resolved_iff {package href q : String} (h : resolveLink package href = .ok q) :
    TypeRef.parse? q = some (.ofName q) ∧
    (TypeRef.qualify package q = .ok (.ofName q) ↔
      package.isEmpty = true ∨ TypeRef.isPrimitiveName q = true ∨
        ∃ path, linkedPath? package href = some path ∧ 1 < path.length) ∧
    ∀ groups t, TypeRef.ofTokens package (.ref q) groups = .ok t →
      ((∃ base rest, tokenize t.print = base :: rest ∧ TypeRef.ofTokens package base rest = .ok t) ↔
        isReserved q = false ∧ TypeRef.qualify package q = .ok (.ofName q)) := by
  have hname := isTypeName_of_resolveLink h
  have hparse := TypeRef.parse?_of_isTypeName hname
  refine ⟨hparse, ?_, fun groups t ht => ?_⟩
  · rw [TypeRef.qualify_eq_ofName_iff hname, dot_mem_iff_of_resolveLink h]
  · have htname : t.name = q := by
      obtain ⟨u, hu, ht⟩ := TypeRef.ofTokens_eq_ok_iff.mp ht
      simp only [TypeRef.ofToken, hparse, Except.ok.injEq] at hu
      rw [TypeRef.name_addBrackets ht, ← hu]
      rfl
    have htokens : tokenize t.print = t.tokens := (TypeRef.spells_print (htname ▸ hname)).tokenize_eq
    rw [htokens]
    constructor
    · rintro ⟨base, rest, htokens, hread⟩
      obtain ⟨rfl, rfl⟩ := List.cons.inj htokens
      obtain ⟨u, hu, hread⟩ := TypeRef.ofTokens_eq_ok_iff.mp hread
      rw [htname] at hu
      exact TypeRef.qualify_of_ofToken hname hu ((TypeRef.name_addBrackets hread).symm.trans htname)
    · rintro ⟨hreserved, hqualify⟩
      have hcomplete : CompleteName package t.name :=
        htname ▸ ⟨hname, hreserved, (TypeRef.qualify_eq_ofName_iff hname).mp hqualify⟩
      exact ⟨_, _, rfl, TypeRef.ofTokens_tokens hcomplete⟩

/-- A link up three levels and down two, with a fragment. -/
theorem qualify_resolved_of_ascendingLink :
    resolveLink "javax.microedition.lcdui" "../../../java/lang/String.html#trim()" =
        .ok "java.lang.String" ∧
      TypeRef.qualify "javax.microedition.lcdui" "java.lang.String" =
        .ok (.ofName "java.lang.String") ∧
      ∃ base rest, tokenize "java.lang.String[][]" = base :: rest ∧
        TypeRef.ofTokens "javax.microedition.lcdui" base rest =
          .ok ⟨"java.lang.String", 2, by decide⟩ := by
  have hlink : resolveLink "javax.microedition.lcdui" "../../../java/lang/String.html#trim()" =
      .ok "java.lang.String" := by decide +kernel
  obtain ⟨hparse, hqualify, hprinted⟩ := qualify_resolved_iff hlink
  have hq := hqualify.mpr (.inr (.inr
    ⟨["java".toList, "lang".toList, "String.html".toList], by decide +kernel, by decide⟩))
  have hread : TypeRef.ofTokens "javax.microedition.lcdui" (.ref "java.lang.String")
      [.word "[]", .word "[]"] = .ok ⟨"java.lang.String", 2, by decide⟩ := by
    simp only [TypeRef.ofTokens, TypeRef.ofToken, hparse]
    rfl
  exact ⟨hlink, hq, (hprinted _ _ hread).mpr ⟨by decide, hq⟩⟩

/-- A page beside the directories: the name of its class, written on a page of `p`, is another one. -/
theorem qualify_resolved_rootPage :
    IsPackage "p" ∧ resolveLink "p" "../Type.html" = .ok "Type" ∧
      TypeRef.parse? "Type" = some (.ofName "Type") ∧
      TypeRef.qualify "p" "Type" = .ok (.ofName "p.Type") ∧
      TypeRef.ofName "p.Type" ≠ .ofName "Type" :=
  ⟨.inr (TypeRef.parse?_of_isTypeName (by decide +kernel)), by decide +kernel,
    TypeRef.parse?_of_isTypeName (by decide +kernel),
    TypeRef.qualify_of_bare (by decide +kernel) (by decide +kernel), by decide⟩

/-! ## The page of a class -/

/-- A package of segments with dots between them, each of them not empty and of name characters. -/
def IsSegmented (package : String) : Prop :=
  ∀ s ∈ package.toList.splitOn '.', s ≠ [] ∧ ∀ c ∈ s, Text.isNameChar c = true

/-- A link to a class keeps its name: the name is of ASCII, the simple name without dots. -/
def IsLinkable (package name : String) : Prop :=
  (∀ c ∈ package.toList, c.toNat < 128) ∧ ∀ c ∈ name.toList, c ≠ '.' ∧ c.toNat < 128

instance (package : String) : Decidable (IsSegmented package) :=
  decidable_of_iff
    ((package.toList.splitOn '.').all fun s => !s.isEmpty && s.all Text.isNameChar)
    (by simp [IsSegmented])

instance (package name : String) : Decidable (IsLinkable package name) :=
  decidable_of_iff ((package.toList.all fun c => decide (c.toNat < 128)) &&
    name.toList.all fun c => c != '.' && decide (c.toNat < 128)) (by simp [IsLinkable])

/-- A segment as it is written is a part of a name exactly if it is of ASCII, without dots. -/
theorem isPart_encodeSegment_iff {s : List Char} (hne : s ≠ [])
    (h : ∀ c ∈ s, c = '.' ∨ Text.isNameChar c = true) :
    (!(FileUrl.encodeSegment s).isEmpty && (FileUrl.encodeSegment s).all Text.isNameChar) = true ↔
      ∀ c ∈ s, c ≠ '.' ∧ c.toNat < 128 := by
  rw [Bool.and_eq_true, Bool.not_eq_true', List.isEmpty_eq_false_iff, List.all_eq_true]
  constructor
  · rintro ⟨-, hencoded⟩
    have hplain : ∀ c ∈ s, FileUrl.isPlain c = true := by
      intro c hc
      by_contra hn
      have hpercent := FileUrl.percent_mem_encodeSegment hc (Bool.eq_false_iff.mpr hn)
      exact absurd (hencoded _ hpercent) (by decide)
    rw [FileUrl.encodeSegment_of_isPlain hplain] at hencoded
    refine fun c hc => ⟨?_, FileUrl.lt_of_isPlain (hplain c hc)⟩
    rintro rfl
    exact absurd (hencoded _ hc) (by decide)
  · intro hs
    have hchars : ∀ c ∈ s, Text.isNameChar c = true := fun c hc => (h c hc).resolve_left (hs c hc).1
    rw [FileUrl.encodeSegment_of_ascii hchars fun c hc => (hs c hc).2]
    exact ⟨hne, hchars⟩

theorem stripHtml?_append (s : List Char) : stripHtml? (s ++ ".html".toList) = some s := by
  rw [stripHtml?, if_pos (List.suffix_append _ _)]
  simp

/-- The parts that the page of a name in a directory stands for. -/
theorem nameParts?_append_html (directory : FileUrl.Segments) (name : List Char) :
    nameParts? (directory ++ [name ++ ".html".toList]) =
      if ((directory.map FileUrl.encodeSegment ++ [FileUrl.encodeSegment name]).all fun p =>
        !p.isEmpty && p.all Text.isNameChar) = true
      then some (directory.map FileUrl.encodeSegment ++ [FileUrl.encodeSegment name]) else none := by
  have hhtml : FileUrl.encodeSegment ".html".toList = ".html".toList := by decide +kernel
  unfold nameParts?
  simp only [List.map_append, List.map_cons, List.map_nil, List.getLast?_concat,
    List.dropLast_concat, FileUrl.encodeSegment_append, hhtml, stripHtml?_append,
    Option.bind_eq_bind, Option.bind_some]

/-- The characters of a text are those of its segments and dots. -/
theorem forall_mem_segments_iff {package : String} :
    (∀ s ∈ package.toList.splitOn '.', ∀ c ∈ s, c.toNat < 128) ↔
      ∀ c ∈ package.toList, c.toNat < 128 := by
  have hjoin : ['.'].intercalate (package.toList.splitOn '.') = package.toList :=
    List.intercalate_splitOn '.'
  constructor
  · intro h c hc
    rw [← hjoin] at hc
    rcases mem_intercalate hc with rfl | ⟨s, hs, hc⟩
    · decide
    · exact h s hs c hc
  · intro h s hs c hc
    obtain ⟨w, ws, he, hw, hws, -⟩ := Text.splitOnP_pieces (· == '.') package.toList
    have hs : s ∈ w :: ws := he ▸ hs
    rcases List.mem_cons.mp hs with rfl | hs
    · exact h c (hw.subset hc)
    · exact h c ((hws s hs).subset hc)

/-- The page of a class stands for the parts of its name if they keep their form in a link, otherwise
for nothing. -/
theorem nameParts?_page {package name : String} (h : IsSegmented package) (hne : name.toList ≠ [])
    (hn : ∀ c ∈ name.toList, c = '.' ∨ Text.isNameChar c = true) :
    nameParts? (package.toList.splitOn '.' ++ [name.toList ++ ".html".toList]) =
      if IsLinkable package name then some (package.toList.splitOn '.' ++ [name.toList])
      else none := by
  have hsegment : ∀ s ∈ package.toList.splitOn '.',
      ((!(FileUrl.encodeSegment s).isEmpty && (FileUrl.encodeSegment s).all Text.isNameChar) = true ↔
        ∀ c ∈ s, c.toNat < 128) := by
    intro s hs
    obtain ⟨hsne, hchars⟩ := h s hs
    rw [isPart_encodeSegment_iff hsne fun c hc => .inr (hchars c hc)]
    refine forall₂_congr fun c hc => and_iff_right ?_
    rintro rfl
    exact absurd (hchars _ hc) (by decide)
  have hparts : (((package.toList.splitOn '.').map FileUrl.encodeSegment ++
      [FileUrl.encodeSegment name.toList]).all fun p => !p.isEmpty && p.all Text.isNameChar) = true ↔
      IsLinkable package name := by
    rw [List.all_append, Bool.and_eq_true, List.all_map, List.all_eq_true, List.all_cons,
      List.all_nil, Bool.and_true, isPart_encodeSegment_iff hne hn, IsLinkable,
      ← forall_mem_segments_iff]
    exact and_congr_left fun _ => forall₂_congr hsegment
  rw [nameParts?_append_html]
  by_cases hl : IsLinkable package name
  · have hascii := forall_mem_segments_iff.mpr hl.1
    have hkept : (package.toList.splitOn '.').map FileUrl.encodeSegment =
        package.toList.splitOn '.' := by
      refine Eq.trans (List.map_congr_left fun s hs => ?_) (List.map_id _)
      exact FileUrl.encodeSegment_of_ascii (h s hs).2 (hascii s hs)
    have hname : FileUrl.encodeSegment name.toList = name.toList :=
      FileUrl.encodeSegment_of_ascii (fun c hc => (hn c hc).resolve_left (hl.2 c hc).1)
        fun c hc => (hl.2 c hc).2
    rw [if_pos (hparts.mpr hl), if_pos hl, hkept, hname]
  · rw [if_neg (mt hparts.mp hl), if_neg hl]

theorem packageDirectory_of_isSegmented {package : String} (h : IsSegmented package) :
    packageDirectory package = package.toList.splitOn '.' ++ [[]] := by
  have hkept : (package.toList.splitOn '.').filter (fun s => !s.isEmpty) =
      package.toList.splitOn '.' :=
    List.filter_eq_self.mpr fun s hs => by simp [(h s hs).1]
  have hproper : ∀ s ∈ package.toList.splitOn '.',
      s ≠ [] ∧ FileUrl.IsProper s ∧ ∀ c ∈ s, FileUrl.IsInert c := by
    intro s hs
    obtain ⟨hne, hchars⟩ := h s hs
    have hinert : ∀ c ∈ s, FileUrl.IsInert c := fun c hc => FileUrl.isInert_of_isNameChar (hchars c hc)
    have hdot : '.' ∉ s := fun hc => absurd (hchars _ hc) (by decide)
    refine ⟨hne, FileUrl.isProper_of_isInert hinert ?_ ?_, hinert⟩
    · rintro rfl
      exact hdot List.mem_cons_self
    · rintro rfl
      exact hdot List.mem_cons_self
  unfold packageDirectory
  show FileUrl.directory (((package.toList.splitOn '.').filter _).flatMap _) = _
  rw [hkept]
  exact FileUrl.directory_of_segments (List.splitOnP_ne_nil _ _) hproper

theorem isInert_of_dot_or_isNameChar {c : Char} (h : c = '.' ∨ Text.isNameChar c = true) :
    FileUrl.IsInert c := by
  rcases h with rfl | h
  · exact FileUrl.isInert_dot
  · exact FileUrl.isInert_of_isNameChar h

/-- The file of a page has dots and name characters, and stands for itself in a path. -/
theorem page_isProper {name : List Char} (hn : ∀ c ∈ name, c = '.' ∨ Text.isNameChar c = true) :
    (∀ c ∈ name ++ ".html".toList, c = '.' ∨ Text.isNameChar c = true) ∧
      FileUrl.IsProper (name ++ ".html".toList) := by
  have hall : (".html".toList.all fun c => c == '.' || Text.isNameChar c) = true := by
    decide +kernel
  have hhtml : ∀ c ∈ ".html".toList, c = '.' ∨ Text.isNameChar c = true := by
    simpa using List.all_eq_true.mp hall
  have hchars : ∀ c ∈ name ++ ".html".toList, c = '.' ∨ Text.isNameChar c = true :=
    fun c hc => (List.mem_append.mp hc).elim (hn c) (hhtml c)
  have hlength : 5 ≤ (name ++ ".html".toList).length := by simp
  refine ⟨hchars, FileUrl.isProper_of_isInert
    (fun c hc => isInert_of_dot_or_isNameChar (hchars c hc)) ?_ ?_⟩
  · intro e
    rw [e] at hlength
    simp at hlength
  · intro e
    rw [e] at hlength
    simp at hlength

/-- The page of a class lies in the directory of the package. -/
theorem linkedPath?_page {package name : String} (h : IsSegmented package)
    (hn : ∀ c ∈ name.toList, c = '.' ∨ Text.isNameChar c = true) :
    linkedPath? package (name ++ ".html") =
      some (package.toList.splitOn '.' ++ [name.toList ++ ".html".toList]) := by
  have hlist : (name ++ ".html").toList = name.toList ++ ".html".toList := String.toList_append
  obtain ⟨hchars, hproper⟩ := page_isProper hn
  have htrim : Text.trim (name.toList ++ ".html".toList) = name.toList ++ ".html".toList :=
    Text.trim_of_forall fun c hc => (TypeRef.isPlain_of_dot_or_isNameChar (hchars c hc)).not_blank
  rw [linkedPath?, packageDirectory_of_isSegmented h, hlist, htrim]
  refine FileUrl.join?_of_isInert (List.splitOnP_ne_nil _ _) (fun s hs => (h s hs).1) ?_
    (fun c hc => isInert_of_dot_or_isNameChar (hchars c hc)) hproper
  simp

theorem intercalate_append_singleton {α : Type} (d : α) {parts : List (List α)} (hne : parts ≠ [])
    (s : List α) : [d].intercalate (parts ++ [s]) = [d].intercalate parts ++ d :: s := by
  obtain ⟨init, last, rfl⟩ := (List.eq_nil_or_concat parts).resolve_left hne
  simp [intercalate_append_cons, List.intercalate_cons_cons]

theorem qualifiedName_of_isSegmented {package : String} (h : IsSegmented package) (name : String) :
    qualifiedName package name = package ++ "." ++ name := by
  refine if_neg fun hempty => ?_
  rw [String.isEmpty_iff] at hempty
  subst hempty
  exact (h [] (by simp)).1 rfl

/-- In a package, a simple name is what makes a full name of it. -/
theorem simpleName_of_parse? {package name : String} (h : IsSegmented package)
    (hn : TypeRef.parse? (qualifiedName package name) =
      some (.ofName (qualifiedName package name))) :
    name.toList ≠ [] ∧ ∀ c ∈ name.toList, c = '.' ∨ Text.isNameChar c = true := by
  have hlist : (TypeRef.ofName (qualifiedName package name)).name.toList =
      package.toList ++ '.' :: name.toList := by
    rw [qualifiedName_of_isSegmented h]
    simp [TypeRef.ofName, String.toList_append]
  obtain ⟨-, -, hlast, hchars⟩ := TypeRef.isTypeName_iff.mp (TypeRef.isTypeName_of_parse? hn)
  rw [hlist] at hlast hchars
  constructor
  · intro e
    rw [e] at hlast
    simp at hlast
  · intro c hc
    exact hchars c (List.mem_append_right _ (List.mem_cons_of_mem _ hc))

theorem resolveLink_page {package name : String} (h : IsSegmented package)
    (hne : name.toList ≠ []) (hn : ∀ c ∈ name.toList, c = '.' ∨ Text.isNameChar c = true) :
    resolveLink package (name ++ ".html") =
      if IsLinkable package name then .ok (qualifiedName package name)
      else .error (.unresolvableReference package (name ++ ".html")) := by
  have hpath := linkedPath?_page h hn
  rw [linkedPath?] at hpath
  rw [resolveLink, hpath, Option.bind_some, nameParts?_page h hne hn]
  by_cases hl : IsLinkable package name
  · have hsegments : package.toList.splitOn '.' ≠ [] := List.splitOnP_ne_nil _ _
    have hparts : ['.'].intercalate (package.toList.splitOn '.' ++ [name.toList]) =
        (qualifiedName package name).toList := by
      rw [intercalate_append_singleton _ hsegments, List.intercalate_splitOn,
        qualifiedName_of_isSegmented h]
      simp [String.toList_append]
    rw [if_pos hl, if_pos hl]
    show Except.ok (String.ofList _) = _
    rw [hparts, String.ofList_toList]
  · rw [if_neg hl, if_neg hl]

/-- The link to the page of a class in a package leads to the full name of the class, if the name keeps
its form in a link; otherwise it leads nowhere. -/
theorem resolveLink_page_iff {package name : String} (h : IsSegmented package)
    (hn : TypeRef.parse? (qualifiedName package name) =
      some (.ofName (qualifiedName package name))) :
    (resolveLink package (name ++ ".html") = .ok (qualifiedName package name) ↔
      IsLinkable package name) ∧
    (¬IsLinkable package name → resolveLink package (name ++ ".html") =
      .error (.unresolvableReference package (name ++ ".html"))) := by
  obtain ⟨hne, hchars⟩ := simpleName_of_parse? h hn
  rw [resolveLink_page h hne hchars]
  by_cases hl : IsLinkable package name
  · simp [hl]
  · simp [hl]

/-- A class of ASCII. -/
theorem resolveLink_page_of_entry :
    IsSegmented "p.q_1" ∧
      TypeRef.parse? (qualifiedName "p.q_1" "Entry$1") = some (.ofName "p.q_1.Entry$1") ∧
      resolveLink "p.q_1" "Entry$1.html" = .ok "p.q_1.Entry$1" := by
  have hp : IsSegmented "p.q_1" := by decide +kernel
  have hn : TypeRef.parse? (qualifiedName "p.q_1" "Entry$1") = some (.ofName "p.q_1.Entry$1") :=
    TypeRef.parse?_of_isTypeName (by decide +kernel)
  exact ⟨hp, hn, (resolveLink_page_iff hp hn).1.mpr (by decide +kernel)⟩

/-- A nested class and one beyond ASCII: the links to their pages lead nowhere. -/
theorem resolveLink_page_of_nested :
    IsSegmented "p.q" ∧
      (TypeRef.parse? (qualifiedName "p.q" "Map.Entry") = some (.ofName "p.q.Map.Entry") ∧
        resolveLink "p.q" "Map.Entry.html" =
          .error (.unresolvableReference "p.q" "Map.Entry.html")) ∧
      TypeRef.parse? (qualifiedName "p.q" "日本") = some (.ofName "p.q.日本") ∧
        resolveLink "p.q" "日本.html" = .error (.unresolvableReference "p.q" "日本.html") :=
  ⟨by decide +kernel, ⟨TypeRef.parse?_of_isTypeName (by decide +kernel), by decide +kernel⟩,
    TypeRef.parse?_of_isTypeName (by decide +kernel), by decide +kernel⟩

end ApiDoc
