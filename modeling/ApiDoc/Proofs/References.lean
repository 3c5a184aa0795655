import ApiDoc.FileUrl
import ApiDoc.TypeRef
import Mathlib.Data.List.TakeWhile

/-!
# References of one name

Of the characters in a reference, some lead somewhere else, some are read away and some are encoded;
the characters of names do neither of the first two (`isInert_of_isNameChar`).  So a reference that is
a name leads to the file of that name in the directory it starts from (`join?_of_isInert`), whose
name is written as it is exactly as far as it is of ASCII (`isPlain_iff`).
-/

namespace ApiDoc

namespace FileUrl

/-! ## Characters -/

/-- A reference keeps this character as it is, and it says nothing about where the reference leads. -/
structure IsInert (c : Char) : Prop where
  not_edge : isEdge c = false
  not_special : c ∉ ['/', '\\', '?', '#', ':', '|', '%']

/-- What holds of the characters below a bound is seen from their numbers. -/
theorem forall_of_toNat_lt {P : Char → Prop} {bound : Nat} (h : ∀ n < bound, P (Char.ofNat n))
    {c : Char} (hc : c.toNat < bound) : P c := by
  have hn := h c.toNat hc
  rwa [Char.ofNat_toNat] at hn

theorem isNameChar_of_isEdge {c : Char} (h : isEdge c = true) : Text.isNameChar c = false := by
  have hlt : c.toNat < 33 := Nat.lt_succ_of_le (of_decide_eq_true h)
  exact forall_of_toNat_lt (P := fun c => Text.isNameChar c = false) (by decide +kernel) hlt

theorem isNameChar_special :
    ∀ c ∈ ['/', '\\', '?', '#', ':', '|', '%'], Text.isNameChar c = false := by
  have hall : (['/', '\\', '?', '#', ':', '|', '%'].all fun c => !Text.isNameChar c) = true := by
    decide +kernel
  intro c hc
  simpa using List.all_eq_true.mp hall c hc

theorem isInert_of_isNameChar {c : Char} (h : Text.isNameChar c = true) : IsInert c where
  not_edge := by
    rw [Bool.eq_false_iff]
    intro he
    rw [isNameChar_of_isEdge he] at h
    cases h
  not_special hc := by
    rw [isNameChar_special c hc] at h
    cases h

theorem isInert_dot : IsInert '.' := ⟨by decide, by decide⟩

theorem isEdge_of_isIgnored {c : Char} (h : isIgnored c = true) : isEdge c = true := by
  simp only [isIgnored, Bool.or_eq_true, beq_iff_eq] at h
  rcases h with (rfl | rfl) | rfl <;> rfl

theorem filter_isIgnored_of_forall {r : List Char} (h : ∀ c ∈ r, isEdge c = false) :
    r.filter (fun c => !isIgnored c) = r := by
  refine List.filter_eq_self.mpr fun c hc => ?_
  rw [Bool.not_eq_true', Bool.eq_false_iff]
  intro hi
  have he := isEdge_of_isIgnored hi
  rw [h c hc] at he
  cases he

/-- A reference without controls and blanks is read as it is. -/
theorem cleaned_of_forall {r : List Char} (h : ∀ c ∈ r, isEdge c = false) : cleaned r = r := by
  have hdrop : ∀ l : List Char, (∀ c ∈ l, isEdge c = false) → l.dropWhile isEdge = l := by
    intro l hl
    cases l with
    | nil => rfl
    | cons c l => rw [List.dropWhile_cons_of_neg (by simp [hl c List.mem_cons_self])]
  unfold cleaned
  rw [hdrop r h, hdrop r.reverse fun c hc => h c (List.mem_reverse.mp hc), List.reverse_reverse,
    filter_isIgnored_of_forall h]

theorem plainDots_of_not_mem {s : List Char} (h : '%' ∉ s) : plainDots s = s := by
  induction s using plainDots.induct with
  | case1 r _ => exact absurd List.mem_cons_self h
  | case2 r _ => exact absurd List.mem_cons_self h
  | case3 c r hlower hupper ih =>
    rw [plainDots, ih fun hr => h (List.mem_cons_of_mem _ hr)]
    · exact hlower
    · exact hupper
  | case4 => rfl

/-! ## Segments -/

/-- A segment that stands for itself, wherever it comes in a path. -/
structure IsProper (s : List Char) : Prop where
  not_current : plainDots s ≠ ['.']
  not_parent : plainDots s ≠ ['.', '.']
  not_drive : isDriveLetter s = false

theorem isProper_nil : IsProper [] := ⟨by decide, by decide, rfl⟩

/-- A drive letter has a colon or a bar. -/
theorem isDriveLetter_of_isInert (c : Char) {d : Char} (h : IsInert d) :
    isDriveLetter [c, d] = false := by
  have hcolon : d ≠ ':' := fun e => h.not_special (by simp [e])
  have hbar : d ≠ '|' := fun e => h.not_special (by simp [e])
  simp [isDriveLetter, hcolon, hbar]

theorem isProper_of_isInert {s : List Char} (h : ∀ c ∈ s, IsInert c) (hcurrent : s ≠ ['.'])
    (hparent : s ≠ ['.', '.']) : IsProper s := by
  have hplain : plainDots s = s := plainDots_of_not_mem fun hc => (h _ hc).not_special (by simp)
  refine ⟨hplain.symm ▸ hcurrent, hplain.symm ▸ hparent, ?_⟩
  rcases s with _ | ⟨c, _ | ⟨d, _ | ⟨e, r⟩⟩⟩
  · rfl
  · rfl
  · exact isDriveLetter_of_isInert c (h d (by simp))
  · rfl

theorem addSegment_of_isProper {s : List Char} (h : IsProper s) (path : Segments) (more : Bool) :
    addSegment path s more = path ++ [s] := by
  unfold addSegment
  rw [if_neg h.not_parent, if_neg h.not_current]
  cases path with
  | nil =>
    rw [List.isEmpty_nil, if_pos rfl, normalizedFirst, h.not_drive, if_neg Bool.false_ne_true]
    rfl
  | cons t r => rfl

theorem addSegments_of_isProper {segments : Segments} (h : ∀ s ∈ segments, IsProper s)
    (path : Segments) : addSegments path segments = path ++ segments := by
  induction segments generalizing path with
  | nil => exact (List.append_nil path).symm
  | cons s r ih =>
    obtain ⟨hs, hr⟩ := List.forall_mem_cons.mp h
    cases r with
    | nil => exact addSegment_of_isProper hs path false
    | cons t r =>
      rw [addSegments, addSegment_of_isProper hs, ih hr, List.append_assoc]
      · rfl
      · simp

theorem dropLeadingEmpty_of_ne {s : List Char} (hs : s ≠ []) (r : Segments) :
    dropLeadingEmpty (s :: r) = s :: r := by
  unfold dropLeadingEmpty
  split
  · next h => exact absurd (List.cons.inj h).1 hs
  · rfl

theorem shorten_append_singleton (path : Segments) {s : List Char} (h : isDriveLetter s = false) :
    shorten (path ++ [s]) = path := by
  rw [shorten, List.getLast?_concat, Option.any_some, h, if_neg Bool.false_ne_true,
    List.dropLast_concat]

/-! ## Following a reference -/

theorem isSeparator_of_isInert {c : Char} (h : IsInert c) : isSeparator c = false := by
  have hslash : c ≠ '/' := fun e => h.not_special (by simp [e])
  have hback : c ≠ '\\' := fun e => h.not_special (by simp [e])
  simp [isSeparator, hslash, hback]

theorem endsPath_of_isInert {c : Char} (h : IsInert c) : endsPath c = false := by
  have hquery : c ≠ '?' := fun e => h.not_special (by simp [e])
  have hfragment : c ≠ '#' := fun e => h.not_special (by simp [e])
  simp [endsPath, hquery, hfragment]

/-- A reference without query and fragment is followed as a whole. -/
theorem followPath_of_forall {r : List Char} (h : ∀ c ∈ r, endsPath c = false) (path : Segments) :
    followPath path r = dropLeadingEmpty (addSegments path (r.splitOnP isSeparator)) := by
  have hwhole : r.takeWhile (fun c => !endsPath c) = r :=
    List.takeWhile_eq_self_iff.mpr fun c hc => by rw [h c hc]; rfl
  rw [followPath, hwhole]

/-- Each directory in front of the last segment is a segment. -/
theorem splitOnP_directories {segments : Segments} (h : ∀ s ∈ segments, ∀ c ∈ s, IsInert c)
    (last : List Char) : (segments.flatMap (· ++ ['/']) ++ last).splitOnP isSeparator =
      segments ++ last.splitOnP isSeparator := by
  induction segments with
  | nil => rfl
  | cons s r ih =>
    obtain ⟨hs, hr⟩ := List.forall_mem_cons.mp h
    have hone : s.splitOnP isSeparator = [s] :=
      List.splitOnP_eq_singleton fun c hc => isSeparator_of_isInert (hs c hc)
    rw [List.flatMap_cons, List.append_assoc, List.append_assoc, List.singleton_append,
      List.splitOnP_append_cons _ _ rfl, hone, ih hr]
    rfl

/-- The path of a directory is its segments, with an empty one at the end. -/
theorem directory_of_segments {segments : Segments} (hne : segments ≠ [])
    (h : ∀ s ∈ segments, s ≠ [] ∧ IsProper s ∧ ∀ c ∈ s, IsInert c) :
    directory (segments.flatMap (· ++ ['/'])) = segments ++ [[]] := by
  have hchars : ∀ c ∈ segments.flatMap (· ++ ['/']), c = '/' ∨ IsInert c := by
    intro c hc
    obtain ⟨s, hs, hc⟩ := List.mem_flatMap.mp hc
    rcases List.mem_append.mp hc with hc | hc
    · exact .inr ((h s hs).2.2 c hc)
    · exact .inl (List.mem_singleton.mp hc)
  have hclean : cleaned ('/' :: segments.flatMap (· ++ ['/'])) =
      '/' :: segments.flatMap (· ++ ['/']) := by
    refine cleaned_of_forall (List.forall_mem_cons.mpr ⟨rfl, fun c hc => ?_⟩)
    rcases hchars c hc with rfl | hi
    · rfl
    · exact hi.not_edge
  have hends : ∀ c ∈ segments.flatMap (· ++ ['/']), endsPath c = false := by
    intro c hc
    rcases hchars c hc with rfl | hi
    · rfl
    · exact endsPath_of_isInert hi
  have hproper : ∀ s ∈ segments ++ [[]], IsProper s := by
    intro s hs
    rcases List.mem_append.mp hs with hs | hs
    · exact (h s hs).2.1
    · rw [List.mem_singleton.mp hs]
      exact isProper_nil
  have hsplit := splitOnP_directories (fun s hs => (h s hs).2.2) []
  rw [List.append_nil, List.splitOnP_nil] at hsplit
  rw [directory, hclean, List.tail_cons, followPath_of_forall hends, hsplit,
    addSegments_of_isProper hproper, List.nil_append]
  obtain ⟨s, r, rfl⟩ := List.exists_cons_of_ne_nil hne
  exact dropLeadingEmpty_of_ne (h s List.mem_cons_self).1 _

/-- A scheme ends with a colon. -/
theorem scheme?_of_not_mem {r : List Char} (h : ':' ∉ r) : scheme? r = none := by
  unfold scheme?
  split
  · split
    · split
      · next rest he =>
        have hmem : ':' ∈ ':' :: rest := List.mem_cons_self
        rw [← he] at hmem
        exact absurd ((List.dropWhile_sublist _).subset hmem) h
      · rfl
    · rfl
  · rfl

theorem startsWithDriveLetter_of_isInert {r : List Char} (h : ∀ c ∈ r, IsInert c) :
    startsWithDriveLetter r = false := by
  rcases r with _ | ⟨c, _ | ⟨d, r⟩⟩
  · rfl
  · rfl
  · rw [startsWithDriveLetter, isDriveLetter_of_isInert c (h d (by simp)), Bool.false_and]

/-- A reference that is one segment leads to the file of that name in the directory. -/
theorem join?_of_isInert {segments : Segments} (hne : segments ≠ []) (hs : ∀ s ∈ segments, s ≠ [])
    {r : List Char} (hr : r ≠ []) (h : ∀ c ∈ r, IsInert c) (hproper : IsProper r) :
    join? (segments ++ [[]]) r = some (segments ++ [r]) := by
  have hclean : cleaned r = r := cleaned_of_forall fun c hc => (h c hc).not_edge
  have hscheme : scheme? r = none := scheme?_of_not_mem fun hc => (h _ hc).not_special (by simp)
  have hfollow : follow? (segments ++ [[]]) r = some (followPath segments r) := by
    obtain ⟨c, tail, rfl⟩ := List.exists_cons_of_ne_nil hr
    have hc := h c List.mem_cons_self
    simp only [follow?, isSeparator_of_isInert hc, endsPath_of_isInert hc,
      startsWithDriveLetter_of_isInert h, Bool.false_eq_true, if_false,
      shorten_append_singleton segments isProper_nil.not_drive]
  have hpath : followPath segments r = segments ++ [r] := by
    have hone : r.splitOnP isSeparator = [r] :=
      List.splitOnP_eq_singleton fun c hc => isSeparator_of_isInert (h c hc)
    rw [followPath_of_forall fun c hc => endsPath_of_isInert (h c hc), hone,
      addSegments_of_isProper (List.forall_mem_singleton.mpr hproper)]
    obtain ⟨s, rest, rfl⟩ := List.exists_cons_of_ne_nil hne
    exact dropLeadingEmpty_of_ne (hs s List.mem_cons_self) _
  unfold join?
  simp only [hclean, hscheme, hfollow, hpath]

/-! ## Encoding -/

theorem lt_of_isPlain {c : Char} (h : isPlain c = true) : c.toNat < 128 := by
  simp only [isPlain, Bool.and_eq_true, decide_eq_true_eq] at h
  omega

/-- Of name characters, those of ASCII are written as they are. -/
theorem isPlain_iff {c : Char} (h : Text.isNameChar c = true) :
    isPlain c = true ↔ c.toNat < 128 := by
  refine ⟨lt_of_isPlain, fun hlt => ?_⟩
  exact forall_of_toNat_lt (P := fun c => Text.isNameChar c = true → isPlain c = true)
    (by decide +kernel) hlt h

theorem encodeSegment_append (s t : List Char) :
    encodeSegment (s ++ t) = encodeSegment s ++ encodeSegment t := List.flatMap_append

theorem encodeSegment_of_isPlain {s : List Char} (h : ∀ c ∈ s, isPlain c = true) :
    encodeSegment s = s := by
  induction s with
  | nil => rfl
  | cons c r ih =>
    obtain ⟨hc, hr⟩ := List.forall_mem_cons.mp h
    have hr := ih hr
    unfold encodeSegment at hr ⊢
    rw [List.flatMap_cons, if_pos hc, hr]
    rfl

/-- Name characters of ASCII are written as they are. -/
theorem encodeSegment_of_ascii {s : List Char} (h : ∀ c ∈ s, Text.isNameChar c = true)
    (hascii : ∀ c ∈ s, c.toNat < 128) : encodeSegment s = s :=
  encodeSegment_of_isPlain fun c hc => (isPlain_iff (h c hc)).mpr (hascii c hc)

theorem length_toList_loop (bytes : ByteArray) (i : Nat) (r : List UInt8) :
    (ByteArray.toList.loop bytes i r).length = bytes.size - i + r.length := by
  induction i, r using ByteArray.toList.loop.induct bytes with
  | case1 i r hlt ih =>
    rw [ByteArray.toList.loop, if_pos hlt, ih, List.length_cons]
    omega
  | case2 i r hge =>
    rw [ByteArray.toList.loop, if_neg hge, List.length_reverse]
    omega

/-- A character that is encoded begins with a percent sign. -/
theorem percent_mem_encodeSegment {s : List Char} {c : Char} (hc : c ∈ s)
    (h : isPlain c = false) : '%' ∈ encodeSegment s := by
  have hsize : c.toString.toUTF8.size = c.utf8Size := String.utf8ByteSize_singleton
  have hlength : c.toString.toUTF8.toList.length = c.utf8Size := by
    rw [ByteArray.toList, length_toList_loop, hsize]
    simp
  have hne : c.toString.toUTF8.toList ≠ [] :=
    List.ne_nil_of_length_pos (hlength ▸ c.utf8Size_pos)
  obtain ⟨b, bytes, hb⟩ := List.exists_cons_of_ne_nil hne
  refine List.mem_flatMap.mpr ⟨c, hc, ?_⟩
  rw [h, if_neg Bool.false_ne_true, hb]
  exact List.mem_cons_self

end FileUrl

end ApiDoc
