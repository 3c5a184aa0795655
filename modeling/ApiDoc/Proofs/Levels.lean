import ApiDoc.Proofs.Links

/-!
# Links across the levels of packages

A relative link goes up as many levels as it has parent segments in front, at most to the root, and
from there down to the page it names (`followPath_levels`).  A fragment behind the path does not
count, whatever is in it (`join?_append`).  So a link to a page leads to the name made of the
first levels of the package and the names in the link (`resolveLink_relativeLink`).
-/

namespace ApiDoc

namespace FileUrl

/-! ## Fragments -/

/-- A text behind the path of a reference: nothing, or a fragment. -/
def IsFragment (t : List Char) : Prop := ∀ c ∈ t.head?, c = '#'

theorem isFragment_nil : IsFragment [] := by rintro c ⟨⟩

theorem isFragment_cons (f : List Char) : IsFragment ('#' :: f) := by
  rintro c ⟨⟩
  rfl

theorem IsFragment.eq_nil_or_cons {t : List Char} (h : IsFragment t) : t = [] ∨ ∃ f, t = '#' :: f := by
  cases t with
  | nil => exact .inl rfl
  | cons c f =>
    obtain rfl := h c rfl
    exact .inr ⟨f, rfl⟩

theorem dropWhile_append_cons {α : Type} {p : α → Bool} {d : α} (hd : p d = false) (l r : List α) :
    (l ++ d :: r).dropWhile p = l.dropWhile p ++ d :: r := by
  rw [List.dropWhile_append, List.dropWhile_cons_of_neg (by simp [hd])]
  split
  · next h => rw [List.isEmpty_iff.mp h, List.nil_append]
  · rfl

/-- What is cut off the ends of a reference is cut off the fragment. -/
theorem exists_trimmed {p : Char → Bool} (hp : p '#' = false) {a t : List Char} (hne : a ≠ [])
    (ha : ∀ c ∈ a, p c = false) (ht : IsFragment t) :
    ∃ t', IsFragment t' ∧ (((a ++ t).dropWhile p).reverse.dropWhile p).reverse = a ++ t' := by
  have hstart : (a ++ t).dropWhile p = a ++ t := by
    obtain ⟨c, r, rfl⟩ := List.exists_cons_of_ne_nil hne
    exact List.dropWhile_cons_of_neg (by simp [ha c List.mem_cons_self])
  rw [hstart]
  rcases ht.eq_nil_or_cons with rfl | ⟨f, rfl⟩
  · have hend : a.reverse.dropWhile p = a.reverse := by
      refine List.dropWhile_eq_self_iff.mpr fun hlt => ?_
      rw [ha _ (List.mem_reverse.mp (List.getElem_mem hlt))]
      exact Bool.false_ne_true
    exact ⟨[], isFragment_nil, by rw [List.append_nil, hend, List.reverse_reverse]⟩
  · refine ⟨'#' :: (f.reverse.dropWhile p).reverse, isFragment_cons _, ?_⟩
    rw [List.reverse_append, List.reverse_cons, List.append_assoc, List.singleton_append,
      dropWhile_append_cons hp]
    simp

/-- A reference is read as it is up to its fragment. -/
theorem exists_cleaned_append {a t : List Char} (hne : a ≠ []) (ha : ∀ c ∈ a, isEdge c = false)
    (ht : IsFragment t) : ∃ t', IsFragment t' ∧ cleaned (a ++ t) = a ++ t' := by
  obtain ⟨t', ht', htrimmed⟩ := exists_trimmed rfl hne ha ht
  refine ⟨t'.filter fun c => !isIgnored c, ?_, ?_⟩
  · rcases ht'.eq_nil_or_cons with rfl | ⟨f, rfl⟩
    · exact isFragment_nil
    · exact isFragment_cons _
  · rw [cleaned, htrimmed, List.filter_append, filter_isIgnored_of_forall ha]

/-- A colon in the fragment ends no scheme. -/
theorem scheme?_append {a t : List Char} (hcolon : ':' ∉ a) (ht : IsFragment t) :
    scheme? (a ++ t) = none := by
  rcases ht.eq_nil_or_cons with rfl | ⟨f, rfl⟩
  · rw [List.append_nil]
    exact scheme?_of_not_mem hcolon
  · unfold scheme?
    split
    · split
      · split
        · next rest he =>
          -- what ends the scheme is a character of the path, or the mark of the fragment
          rw [dropWhile_append_cons rfl] at he
          cases hd : a.dropWhile _ with
          | nil => rw [hd] at he; cases he
          | cons d r =>
            rw [hd] at he
            obtain rfl : d = ':' := (List.cons.inj he).1
            have hmem := (List.dropWhile_sublist _).subset (hd ▸ List.mem_cons_self)
            exact absurd hmem hcolon
        · rfl
      · rfl
    · rfl

theorem followPath_append {a t : List Char} (h : ∀ c ∈ a, endsPath c = false) (ht : IsFragment t)
    (path : Segments) : followPath path (a ++ t) = followPath path a := by
  have hall : ∀ c ∈ a, (!endsPath c) = true := fun c hc => by rw [h c hc]; rfl
  have hends : ∀ c ∈ t.head?, (!endsPath c) = false := by
    rcases ht.eq_nil_or_cons with rfl | ⟨f, rfl⟩
    · rintro c ⟨⟩
    · rintro c ⟨⟩
      rfl
  rw [followPath, followPath, Text.takeWhile_append_of_head hall hends,
    List.takeWhile_eq_self_iff.mpr hall]

/-! ## Levels -/

theorem shorten_of_isProper {path : Segments} (h : ∀ s ∈ path, IsProper s) :
    shorten path = path.dropLast := by
  rcases List.eq_nil_or_concat path with rfl | ⟨above, s, rfl⟩
  · rfl
  · rw [List.concat_eq_append] at h ⊢
    rw [shorten_append_singleton above (h s (by simp)).not_drive, List.dropLast_concat]

/-- Each parent segment goes up a level, as long as there is one. -/
theorem addSegments_parents {path : Segments} (h : ∀ s ∈ path, IsProper s) (levels : Nat)
    {down : Segments} (hne : down ≠ []) :
    addSegments path (List.replicate levels ['.', '.'] ++ down) =
      addSegments (path.take (path.length - levels)) down := by
  induction levels generalizing path with
  | zero => simp
  | succ n ih =>
    have hup : addSegment path ['.', '.'] true = path.dropLast := by
      rw [← shorten_of_isProper h]
      rfl
    have hrest : List.replicate n ['.', '.'] ++ down ≠ [] := by simp [hne]
    have hproper : ∀ s ∈ path.dropLast, IsProper s := fun s hs => h s (List.dropLast_subset path hs)
    have htake : path.dropLast.take (path.dropLast.length - n) =
        path.take (path.length - (n + 1)) := by
      rw [List.dropLast_eq_take, List.take_take, List.length_take]
      congr 1
      omega
    rw [List.replicate_succ, List.cons_append, addSegments, hup, ih hproper, htake]
    exact hrest

/-! ## Relative paths -/

/-- A path that is not absolute, with nothing in it that a reference is read by. -/
structure IsRelative (a : List Char) : Prop where
  head : ∃ c r, a = c :: r ∧ IsInert c
  chars : ∀ c ∈ a, c = '/' ∨ IsInert c

theorem mem_path {directories : Segments} {last : List Char} {c : Char}
    (hc : c ∈ directories.flatMap (· ++ ['/']) ++ last) :
    c = '/' ∨ ∃ s ∈ directories ++ [last], c ∈ s := by
  rcases List.mem_append.mp hc with hc | hc
  · obtain ⟨s, hs, hc⟩ := List.mem_flatMap.mp hc
    rcases List.mem_append.mp hc with hc | hc
    · exact .inr ⟨s, List.mem_append_left _ hs, hc⟩
    · exact .inl (List.mem_singleton.mp hc)
  · exact .inr ⟨last, by simp, hc⟩

theorem isRelative_path {directories : Segments} {last : List Char}
    (h : ∀ s ∈ directories ++ [last], s ≠ [] ∧ ∀ c ∈ s, IsInert c) :
    IsRelative (directories.flatMap (· ++ ['/']) ++ last) where
  head := by
    cases directories with
    | nil =>
      obtain ⟨hne, hlast⟩ := h last (by simp)
      obtain ⟨c, r, rfl⟩ := List.exists_cons_of_ne_nil hne
      exact ⟨c, r, rfl, hlast c List.mem_cons_self⟩
    | cons s rest =>
      obtain ⟨hne, hfirst⟩ := h s (by simp)
      obtain ⟨c, r, rfl⟩ := List.exists_cons_of_ne_nil hne
      exact ⟨c, _, rfl, hfirst c List.mem_cons_self⟩
  chars := by
    intro c hc
    rcases mem_path hc with hc | ⟨s, hs, hc⟩
    · exact .inl hc
    · exact .inr ((h s hs).2 c hc)

theorem IsRelative.endsPath {a : List Char} (h : IsRelative a) : ∀ c ∈ a, endsPath c = false := by
  intro c hc
  rcases h.chars c hc with rfl | hc
  · rfl
  · exact endsPath_of_isInert hc

/-- What all segments of a path have that goes up some levels and down again. -/
theorem forall_mem_levels {P : List Char → Prop} {down : Segments} {last : List Char} (levels : Nat)
    (hup : P ['.', '.']) (hdown : ∀ s ∈ down ++ [last], P s) :
    ∀ s ∈ List.replicate levels ['.', '.'] ++ down ++ [last], P s := by
  intro s hs
  rw [List.append_assoc] at hs
  rcases List.mem_append.mp hs with hs | hs
  · rwa [List.eq_of_mem_replicate hs]
  · exact hdown s hs

/-- A path goes up to the first segments of its base, and down from there. -/
theorem followPath_levels {segments down : Segments} {last : List Char}
    (hsegments : ∀ s ∈ segments, s ≠ [] ∧ IsProper s)
    (hdown : ∀ s ∈ down ++ [last], s ≠ [] ∧ IsProper s ∧ ∀ c ∈ s, IsInert c) (levels : Nat) :
    followPath segments ((List.replicate levels ['.', '.'] ++ down).flatMap (· ++ ['/']) ++ last) =
      segments.take (segments.length - levels) ++ (down ++ [last]) := by
  have hinert : ∀ s ∈ List.replicate levels ['.', '.'] ++ down ++ [last],
      s ≠ [] ∧ ∀ c ∈ s, IsInert c :=
    forall_mem_levels levels ⟨by simp, by simp [isInert_dot]⟩ fun s hs =>
      (hdown s hs).imp_right And.right
  have hends := (isRelative_path hinert).endsPath
  have hone : last.splitOnP isSeparator = [last] :=
    List.splitOnP_eq_singleton fun c hc =>
      isSeparator_of_isInert ((hdown last (by simp)).2.2 c hc)
  have hsplit := splitOnP_directories (fun s hs => (hinert s (List.mem_append_left _ hs)).2) last
  rw [hone, List.append_assoc] at hsplit
  rw [followPath_of_forall hends, hsplit, addSegments_parents (fun s hs => (hsegments s hs).2) levels
    (by simp), addSegments_of_isProper fun s hs => (hdown s hs).2.1]
  have hall : ∀ s ∈ segments.take (segments.length - levels) ++ (down ++ [last]), s ≠ [] := by
    intro s hs
    rcases List.mem_append.mp hs with hs | hs
    · exact (hsegments s (List.mem_of_mem_take hs)).1
    · exact (hdown s hs).1
  obtain ⟨s, r, he⟩ := List.exists_cons_of_ne_nil
    (show segments.take (segments.length - levels) ++ (down ++ [last]) ≠ [] by simp)
  rw [he] at hall ⊢
  exact dropLeadingEmpty_of_ne (hall s List.mem_cons_self) r

/-! ## Following a reference -/

/-- A relative reference is followed from the directory of its base; its fragment does not count. -/
theorem join?_append (segments : Segments) {a t : List Char} (ha : IsRelative a) (ht : IsFragment t) :
    join? (segments ++ [[]]) (a ++ t) = some (followPath segments a) := by
  obtain ⟨c, r, rfl, hc⟩ := ha.head
  have hedge : ∀ d ∈ c :: r, isEdge d = false := by
    intro d hd
    rcases ha.chars d hd with rfl | hd
    · rfl
    · exact hd.not_edge
  have hcolon : ':' ∉ c :: r := by
    intro hd
    rcases ha.chars ':' hd with he | hd
    · cases he
    · exact hd.not_special (by simp)
  obtain ⟨t', ht', hclean⟩ := exists_cleaned_append (List.cons_ne_nil c r) hedge ht
  have hdrive : startsWithDriveLetter (c :: r ++ t') = false := by
    rw [List.cons_append]
    cases r with
    | nil =>
      rcases ht'.eq_nil_or_cons with rfl | ⟨f, rfl⟩
      · rfl
      · simp [startsWithDriveLetter, isDriveLetter]
    | cons d r =>
      have hd : isDriveLetter [c, d] = false := by
        rcases ha.chars d (by simp) with rfl | hd
        · simp [isDriveLetter]
        · exact isDriveLetter_of_isInert c hd
      rw [List.cons_append, startsWithDriveLetter, hd, Bool.false_and]
  have hshorten := shorten_append_singleton segments isProper_nil.not_drive
  have hfollow : follow? (segments ++ [[]]) (c :: r ++ t') = some (followPath segments (c :: r)) := by
    rw [← followPath_append ha.endsPath ht']
    rw [List.cons_append] at hdrive ⊢
    simp only [follow?, isSeparator_of_isInert hc, endsPath_of_isInert hc, hdrive,
      Bool.false_eq_true, if_false, hshorten]
  unfold join?
  simp only [hclean, scheme?_append hcolon ht', hfollow]

end FileUrl

/-! ## Names of words -/

/-- A word of letters and digits of ASCII, `_` and `$`. -/
def IsAsciiWord (w : String) : Prop :=
  w ≠ "" ∧ ∀ c ∈ w.toList, c.isAlphanum = true ∨ c = '_' ∨ c = '$'

instance (w : String) : Decidable (IsAsciiWord w) :=
  decidable_of_iff (w ≠ "" ∧ w.toList.all fun c => c.isAlphanum || c = '_' || c = '$')
    (by simp [IsAsciiWord, or_assoc])

namespace IsAsciiWord

variable {w : String}

theorem toList_ne_nil (h : IsAsciiWord w) : w.toList ≠ [] := by simpa using h.1

theorem isNameChar (h : IsAsciiWord w) : ∀ c ∈ w.toList, Text.isNameChar c = true := by
  intro c hc
  rcases h.2 c hc with hc | rfl | rfl
  · simp [Text.isNameChar, Text.isAlphanumeric_of_isAlphanum hc]
  · rfl
  · rfl

theorem toNat_lt (h : IsAsciiWord w) : ∀ c ∈ w.toList, c.toNat < 128 := by
  intro c hc
  rcases h.2 c hc with hc | rfl | rfl
  · exact Text.toNat_lt_of_isAlphanum hc
  · decide
  · decide

theorem isInert (h : IsAsciiWord w) : ∀ c ∈ w.toList, FileUrl.IsInert c :=
  fun c hc => FileUrl.isInert_of_isNameChar (h.isNameChar c hc)

theorem not_dot_mem (h : IsAsciiWord w) : '.' ∉ w.toList :=
  fun hc => absurd (h.isNameChar _ hc) (by decide)

theorem isProper (h : IsAsciiWord w) : FileUrl.IsProper w.toList := by
  refine FileUrl.isProper_of_isInert h.isInert (fun e => h.not_dot_mem ?_) fun e => h.not_dot_mem ?_
  · simp [e]
  · simp [e]

theorem encodeSegment (h : IsAsciiWord w) : FileUrl.encodeSegment w.toList = w.toList :=
  FileUrl.encodeSegment_of_ascii h.isNameChar h.toNat_lt

end IsAsciiWord

section
variable {segments : List String}

theorem splitOn_intercalate_words (hne : segments ≠ []) (h : ∀ s ∈ segments, IsAsciiWord s) :
    (".".intercalate segments).toList.splitOn '.' = segments.map String.toList := by
  rw [String.toList_intercalate]
  refine List.splitOn_intercalate '.' (fun l hl => ?_) (by simpa using hne)
  obtain ⟨s, hs, rfl⟩ := List.mem_map.mp hl
  exact (h s hs).not_dot_mem

/-- The directory of a package has a level for each word of its name. -/
theorem packageDirectory_of_words (h : ∀ s ∈ segments, IsAsciiWord s) :
    packageDirectory (".".intercalate segments) = segments.map String.toList ++ [[]] := by
  by_cases hne : segments = []
  · subst hne
    decide +kernel
  · have hsplit := splitOn_intercalate_words hne h
    have hsegmented : IsSegmented (".".intercalate segments) := by
      rw [IsSegmented, hsplit]
      intro l hl
      obtain ⟨s, hs, rfl⟩ := List.mem_map.mp hl
      exact ⟨(h s hs).toList_ne_nil, (h s hs).isNameChar⟩
    rw [packageDirectory_of_isSegmented hsegmented, hsplit]

/-- The page of a word in directories of words stands for these words. -/
theorem nameParts?_of_words (h : ∀ s ∈ segments, IsAsciiWord s) {name : String}
    (hname : IsAsciiWord name) :
    nameParts? (segments.map String.toList ++ [name.toList ++ ".html".toList]) =
      some (segments.map String.toList ++ [name.toList]) := by
  have hkept : (segments.map String.toList).map FileUrl.encodeSegment =
      segments.map String.toList := by
    rw [List.map_map]
    exact List.map_congr_left fun s hs => (h s hs).encodeSegment
  have hparts : ((segments.map String.toList ++ [name.toList]).all fun p =>
      !p.isEmpty && p.all Text.isNameChar) = true := by
    rw [List.all_eq_true]
    intro p hp
    obtain ⟨w, hw, rfl⟩ : ∃ w, IsAsciiWord w ∧ w.toList = p := by
      rcases List.mem_append.mp hp with hp | hp
      · obtain ⟨s, hs, rfl⟩ := List.mem_map.mp hp
        exact ⟨s, h s hs, rfl⟩
      · exact ⟨name, hname, (List.mem_singleton.mp hp).symm⟩
    rw [Bool.and_eq_true, Bool.not_eq_true', List.isEmpty_eq_false_iff, List.all_eq_true]
    exact ⟨hw.toList_ne_nil, hw.isNameChar⟩
  rw [nameParts?_append_html, hkept, hname.encodeSegment, if_pos hparts]

end

/-! ## Relative links -/

/-- The link up some levels and down to the page of a name, with a fragment if there is one. -/
def relativeLink (levels : Nat) (names : List String) (fragment : Option String) : String :=
  String.join (List.replicate levels "../") ++ "/".intercalate names ++ ".html" ++
    (fragment.elim "" ("#" ++ ·))

theorem exists_toList_relativeLink (levels : Nat) (down : List String) (last : String)
    (fragment : Option String) : ∃ t, FileUrl.IsFragment t ∧
      (relativeLink levels (down ++ [last]) fragment).toList =
        (List.replicate levels ['.', '.'] ++ down.map String.toList).flatMap (· ++ ['/']) ++
          (last.toList ++ ".html".toList) ++ t := by
  have hup : (String.join (List.replicate levels "../")).toList =
      (List.replicate levels ['.', '.']).flatMap (· ++ ['/']) := by
    rw [String.toList_join, List.flatMap_replicate, List.flatMap_replicate]
    rfl
  have hdown : ("/".intercalate (down ++ [last])).toList =
      (down.map String.toList).flatMap (· ++ ['/']) ++ last.toList := by
    rw [String.toList_intercalate, List.map_append, List.map_singleton]
    exact (intercalate_append_cons '/' _ _ []).trans (by rw [List.intercalate_singleton])
  refine ⟨(fragment.elim "" ("#" ++ ·)).toList, ?_, ?_⟩
  · cases fragment with
    | none => exact FileUrl.isFragment_nil
    | some f =>
      rw [Option.elim_some, String.toList_append]
      exact FileUrl.isFragment_cons f.toList
  · rw [relativeLink, String.toList_append, String.toList_append, String.toList_append, hup, hdown,
      List.flatMap_append]
    simp only [List.append_assoc]

/-- The path of the page: the first levels of the package, then the words of the link. -/
theorem linkedPath?_relativeLink {segments down : List String} {last : String}
    (hsegments : ∀ s ∈ segments, IsAsciiWord s) (hdown : ∀ s ∈ down, IsAsciiWord s)
    (hlast : IsAsciiWord last) (levels : Nat) (fragment : Option String) :
    linkedPath? (".".intercalate segments) (relativeLink levels (down ++ [last]) fragment) =
      some ((segments.take (segments.length - levels) ++ down).map String.toList ++
        [last.toList ++ ".html".toList]) := by
  obtain ⟨hfile, hproper⟩ := page_isProper fun c hc => .inr (hlast.isNameChar c hc)
  -- every segment of the link has dots and name characters only
  have hchars : ∀ s ∈ down.map String.toList ++ [last.toList ++ ".html".toList], s ≠ [] ∧
      FileUrl.IsProper s ∧ ∀ c ∈ s, c = '.' ∨ Text.isNameChar c = true := by
    intro s hs
    rcases List.mem_append.mp hs with hs | hs
    · obtain ⟨w, hw, rfl⟩ := List.mem_map.mp hs
      have hw := hdown w hw
      exact ⟨hw.toList_ne_nil, hw.isProper, fun c hc => .inr (hw.isNameChar c hc)⟩
    · rw [List.mem_singleton.mp hs]
      exact ⟨by simp, hproper, hfile⟩
  have hpath := FileUrl.forall_mem_levels
    (P := fun s => s ≠ [] ∧ ∀ c ∈ s, c = '.' ∨ Text.isNameChar c = true) levels
    ⟨by simp, by simp⟩ fun s hs => (hchars s hs).imp_right And.right
  obtain ⟨t, ht, hlink⟩ := exists_toList_relativeLink levels down last fragment
  have hrelative := FileUrl.isRelative_path fun s hs =>
    (hpath s hs).imp_right fun h c hc => isInert_of_dot_or_isNameChar (h c hc)
  obtain ⟨t', ht', htrim⟩ : ∃ t', FileUrl.IsFragment t' ∧
      Text.trim (relativeLink levels (down ++ [last]) fragment).toList =
        (List.replicate levels ['.', '.'] ++ down.map String.toList).flatMap (· ++ ['/']) ++
          (last.toList ++ ".html".toList) ++ t' := by
    rw [hlink]
    refine FileUrl.exists_trimmed rfl (by simp) (fun c hc => ?_) ht
    rcases FileUrl.mem_path hc with rfl | ⟨s, hs, hc⟩
    · rfl
    · exact (TypeRef.isPlain_of_dot_or_isNameChar ((hpath s hs).2 c hc)).not_blank
  have hbase : ∀ s ∈ segments.map String.toList, s ≠ [] ∧ FileUrl.IsProper s := by
    intro s hs
    obtain ⟨w, hw, rfl⟩ := List.mem_map.mp hs
    exact ⟨(hsegments w hw).toList_ne_nil, (hsegments w hw).isProper⟩
  have hjoin := FileUrl.join?_append (segments.map String.toList) hrelative ht'
  have hfollow := FileUrl.followPath_levels hbase (fun s hs => (hchars s hs).imp_right fun h =>
    ⟨h.1, fun c hc => isInert_of_dot_or_isNameChar (h.2 c hc)⟩) levels
  rw [linkedPath?, packageDirectory_of_words hsegments, htrim, hjoin, hfollow, List.length_map,
    List.map_append, List.map_take, List.append_assoc]

/-- A link up some levels and down to the page of a name leads from a page of a package to the name made
of the first segments of the package and the words of the link, whatever fragment is behind it. -/
theorem resolveLink_relativeLink {segments names : List String}
    (hsegments : ∀ s ∈ segments, IsAsciiWord s) (hne : names ≠ []) (hnames : ∀ t ∈ names, IsAsciiWord t)
    (levels : Nat) (fragment : Option String) :
    resolveLink (".".intercalate segments) (relativeLink levels names fragment) =
      .ok (".".intercalate (segments.take (segments.length - levels) ++ names)) := by
  obtain ⟨down, last, rfl⟩ := List.eq_nil_or_concat' names |>.resolve_left hne
  obtain ⟨hdown, hlast⟩ : (∀ s ∈ down, IsAsciiWord s) ∧ IsAsciiWord last := by
    simpa [or_imp, forall_and] using hnames
  have hpath := linkedPath?_relativeLink hsegments hdown hlast levels fragment
  rw [linkedPath?] at hpath
  -- the levels that are left and the directories of the link are words again
  have hwords : ∀ s ∈ segments.take (segments.length - levels) ++ down, IsAsciiWord s := by
    intro s hs
    rcases List.mem_append.mp hs with hs | hs
    · exact hsegments s (List.mem_of_mem_take hs)
    · exact hdown s hs
  have htext : ['.'].intercalate
      ((segments.take (segments.length - levels) ++ down).map String.toList ++ [last.toList]) =
        (".".intercalate (segments.take (segments.length - levels) ++ (down ++ [last]))).toList := by
    rw [String.toList_intercalate]
    simp
  rw [resolveLink, hpath, Option.bind_some, nameParts?_of_words hwords hlast]
  show Except.ok (String.ofList _) = _
  rw [htext, String.ofList_toList]

/-- Up more levels than there are, and down again, with a fragment that looks like a link itself. -/
theorem resolveLink_relativeLink_of_clampedLink :
    relativeLink 3 ["java", "lang", "Object"] (some "x/../y.html?z:1 ") =
        "../../../java/lang/Object.html#x/../y.html?z:1 " ∧
      resolveLink "java.io" "../../../java/lang/Object.html#x/../y.html?z:1 " =
        .ok "java.lang.Object" ∧
      resolveLink "java.io" "../Math$1.html" = .ok "java.Math$1" := by
  have hsegments : ∀ s ∈ ["java", "io"], IsAsciiWord s := by decide
  have hobject := resolveLink_relativeLink hsegments (List.cons_ne_nil "java" ["lang", "Object"])
    (by decide) 3 (some "x/../y.html?z:1 ")
  have hmath := resolveLink_relativeLink hsegments (List.cons_ne_nil "Math$1" []) (by decide) 1 none
  exact ⟨by decide +kernel, hobject, hmath⟩

end ApiDoc
