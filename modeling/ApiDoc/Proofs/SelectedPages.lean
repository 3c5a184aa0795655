import ApiDoc.Proofs.Documents
import ApiDoc.Proofs.Listings
import Mathlib.Data.List.TakeDrop
import Mathlib.Data.List.TakeWhile

/-!
# Selected pages

The pages under a root are the files at the places that are selected (`Selection.IsPage`), in ascending
order (`DocumentSet.collect_selects_pages`).  A name behind a path is one component more
(`Path.components_join`), so the paths of different places have different components and come in one order
only.  Where the same things stand, there are the same documents (`DocumentSet.collect_congr`), so the
order in which directories list their entries does not count.
-/

namespace ApiDoc

open FileTree (IsEntryName)

namespace Path

/-! ## Names behind a path -/

theorem Component.ofPart?_of_isEntryName {name : String} (h : IsEntryName name) :
    ofPart? name.toList = some (.normal name) := by
  obtain ⟨hempty, hdot, hdots, -⟩ := h
  have hne : ∀ {s : String}, name ≠ s → name.toList ≠ s.toList := fun hs he =>
    hs (String.toList_injective he)
  have hnone : ¬(name.toList = [] ∨ name.toList = ['.']) := by
    rintro (h | h)
    · exact hne hempty h
    · exact hne hdot h
  rw [ofPart?, if_neg hnone, if_neg (show ¬name.toList = ['.', '.'] from hne hdots), String.ofList_toList]

/-- What the first part of a path stands for. -/
def startComponents (part : List Char) : List Component :=
  if part = [] then [.root] else if part = ['.'] then [.current] else (Component.ofPart? part).toList

theorem components_of_parts {p : Path} {first : List Char} {rest : List (List Char)}
    (h : p.parts = first :: rest) (hne : p.text ≠ "") :
    p.components = startComponents first ++ rest.filterMap Component.ofPart? := by
  have hrest : first = [] → rest ≠ [] := by
    rintro rfl rfl
    have htext : ['/'].intercalate (p.text.toList.splitOn '/') = p.text.toList :=
      List.intercalate_splitOn '/'
    rw [show p.text.toList.splitOn '/' = [[]] from h] at htext
    exact hne (String.toList_injective htext.symm)
  rw [components, h]
  cases first with
  | nil =>
    obtain ⟨second, rest, rfl⟩ := List.exists_cons_of_ne_nil (hrest rfl)
    rfl
  | cons c first =>
    dsimp only
    by_cases hdot : c :: first = ['.']
    · rw [if_pos hdot, hdot]
      rfl
    · rw [if_neg hdot, startComponents, if_neg (List.cons_ne_nil _ _), if_neg hdot, List.filterMap_cons]
      cases Component.ofPart? (c :: first) <;> rfl

theorem not_isAbsolute_of_isEntryName {name : String} (h : IsEntryName name) :
    ¬(⟨name⟩ : Path).isAbsolute = true := by
  rw [isAbsolute, beq_iff_eq]
  intro hhead
  exact h.2.2.2 (List.mem_of_mem_head? hhead)

theorem text_join_ne_empty {p : Path} (hp : p.text ≠ "") {name : String} (h : IsEntryName name) :
    (p.join ⟨name⟩).text ≠ "" := by
  rw [join, if_neg (not_isAbsolute_of_isEntryName h)]
  split
  · simp [hp]
  · simp [hp]

/-- A separator at the end of a path stands for the one in front of a name. -/
theorem parts_join (p : Path) {name : String} (h : IsEntryName name) (hp : p.text ≠ "") :
    ∃ first rest tail, p.parts = first :: (rest ++ tail) ∧ tail.filterMap Component.ofPart? = [] ∧
      (p.join ⟨name⟩).parts = first :: (rest ++ [name.toList]) := by
  have hname : name.toList.splitOnP (· == '/') = [name.toList] :=
    List.splitOnP_eq_singleton fun c hc => beq_false_of_ne fun he => h.2.2.2 (he ▸ hc)
  have habsolute := not_isAbsolute_of_isEntryName h
  by_cases hlast : p.text.toList.getLast? = some '/'
  · obtain ⟨before, hbefore⟩ := List.getLast?_eq_some_iff.mp hlast
    obtain ⟨first, rest, hparts⟩ := List.exists_cons_of_ne_nil (List.splitOnP_ne_nil (· == '/') before)
    refine ⟨first, rest, [[]], ?_, rfl, ?_⟩
    · rw [parts, hbefore, List.splitOnP_append_cons _ _ rfl, List.splitOnP_nil, hparts, List.cons_append]
    · rw [join, if_neg habsolute, if_pos (by simp [hlast]), parts, String.toList_append, hbefore,
        List.append_assoc, List.singleton_append, List.splitOnP_append_cons _ _ rfl, hname, hparts,
        List.cons_append]
  · obtain ⟨first, rest, hparts⟩ :=
      List.exists_cons_of_ne_nil (List.splitOnP_ne_nil (· == '/') p.text.toList)
    refine ⟨first, rest, [], by rw [parts, hparts, List.append_nil], rfl, ?_⟩
    rw [join, if_neg habsolute, if_neg (by simp [hp, hlast]), parts, String.toList_append,
      String.toList_append, List.append_assoc, show "/".toList = ['/'] from rfl, List.singleton_append,
      List.splitOnP_append_cons _ _ rfl, hname, hparts, List.cons_append]

/-- A name behind a path is one component more. -/
theorem components_join {p : Path} (hp : p.text ≠ "") {name : String} (h : IsEntryName name) :
    (p.join ⟨name⟩).components = p.components ++ [.normal name] := by
  obtain ⟨first, rest, tail, hparts, htail, hjoin⟩ := p.parts_join h hp
  rw [components_of_parts hparts hp, components_of_parts hjoin (text_join_ne_empty hp h),
    List.filterMap_append, List.filterMap_append, htail, List.append_nil, List.append_assoc,
    List.filterMap_cons, Component.ofPart?_of_isEntryName h]
  rfl

/-- The path of the place that names lead to from a root. -/
def below (root : Path) (names : List String) : Path := names.foldl (fun p name => p.join ⟨name⟩) root

theorem components_below {root : Path} (hroot : root.text ≠ "") {names : List String}
    (h : ∀ name ∈ names, IsEntryName name) :
    (root.below names).components = root.components ++ names.map .normal := by
  induction names generalizing root with
  | nil => exact (List.append_nil _).symm
  | cons name r ih =>
    obtain ⟨hname, hr⟩ := List.forall_mem_cons.mp h
    rw [below, List.foldl_cons]
    refine (ih (text_join_ne_empty hroot hname) hr).trans ?_
    rw [components_join hroot hname, List.append_assoc, List.map_cons, List.singleton_append]

end Path

/-! ## Selections -/

theorem span_ne_dot_eq_iff {l after before : List Char} :
    l.span (· != '.') = (after, '.' :: before) ↔ l = after ++ '.' :: before ∧ '.' ∉ after := by
  rw [List.span_eq_takeWhile_dropWhile, Prod.mk.injEq]
  constructor
  · rintro ⟨rfl, hdrop⟩
    refine ⟨by rw [← hdrop, List.takeWhile_append_dropWhile], fun hmem => ?_⟩
    exact absurd (List.mem_takeWhile_imp hmem) (by decide)
  · rintro ⟨rfl, hafter⟩
    have hpos : ∀ c ∈ after, (c != '.') = true := fun c hc => bne_iff_ne.mpr fun he => hafter (he ▸ hc)
    rw [List.takeWhile_append_of_pos hpos, List.dropWhile_append_of_pos hpos]
    simp

/-- The extension of a file name is what follows the last dot, behind a stem. -/
theorem Path.extensionOf?_eq_some_iff {name e : String} : Path.extensionOf? name = some e ↔
    ∃ stem, stem ≠ "" ∧ name = stem ++ ("." ++ e) ∧ '.' ∉ e.toList := by
  unfold Path.extensionOf?
  constructor
  · intro h
    split at h
    · next after before hspan =>
      obtain ⟨hname, hafter⟩ := span_ne_dot_eq_iff.mp hspan
      obtain ⟨hbefore, he⟩ := Option.ite_none_left_eq_some.mp h
      obtain rfl := Option.some.inj he
      refine ⟨String.ofList before.reverse, ?_, ?_, by simpa using hafter⟩
      · simpa [List.isEmpty_iff] using hbefore
      · refine String.toList_injective ?_
        rw [← List.reverse_reverse name.toList, hname]
        simp
    · cases h
  · rintro ⟨stem, hstem, rfl, he⟩
    have hspan : (stem ++ ("." ++ e)).toList.reverse.span (· != '.') =
        (e.toList.reverse, '.' :: stem.toList.reverse) :=
      span_ne_dot_eq_iff.mpr ⟨by simp, by simpa using he⟩
    rw [hspan]
    simp [hstem]

namespace Selection

theorem occursIn_iff {fragment text : List Char} : occursIn fragment text = true ↔ fragment <:+: text := by
  induction text with
  | nil => simp [occursIn, List.isEmpty_iff]
  | cons c r ih => rw [occursIn, Bool.or_eq_true, List.isPrefixOf_iff_prefix, ih, List.infix_cons_iff]

/-- The file that names lead to is a page of a selection: an `.html` file below a directory on the top level
that is not left out, with a name that is not left out and no fragment in its path that is. -/
def IsPage (s : Selection) (names : List String) : Prop :=
  ∃ top between stem, names = top :: (between ++ [stem ++ ".html"]) ∧ stem ≠ "" ∧
    top ∉ s.skipDirectories ∧ stem ++ ".html" ∉ s.skipNames ∧
    ∀ fragment ∈ s.skipFragments, ¬fragment.toList <:+: ("/".intercalate names).toList

theorem selects_concat (s : Selection) (top : String) (between : List String) (name : String) :
    s.selects (top :: (between ++ [name])) = (Path.extensionOf? name == some "html" &&
      !s.skipDirectories.contains top && !s.skipNames.contains name &&
      !s.skipFragments.any fun f =>
        occursIn f.toList ("/".intercalate (top :: (between ++ [name]))).toList) := by
  have hlast : (top :: (between ++ [name])).getLast? = some name := by
    rw [← List.cons_append, List.getLast?_concat]
  unfold selects
  rw [hlast]
  cases between <;> rfl

theorem selects_iff {s : Selection} {names : List String} : s.selects names = true ↔ s.IsPage names := by
  have hselects : ∀ top between name, s.selects (top :: (between ++ [name])) = true ↔
      (∃ stem, stem ≠ "" ∧ name = stem ++ ".html") ∧ top ∉ s.skipDirectories ∧ name ∉ s.skipNames ∧
        ∀ f ∈ s.skipFragments,
          ¬f.toList <:+: ("/".intercalate (top :: (between ++ [name]))).toList := by
    intro top between name
    have hhtml : '.' ∉ "html".toList := by decide
    simp only [selects_concat, Bool.and_eq_true, beq_iff_eq, Path.extensionOf?_eq_some_iff, hhtml,
      not_false_iff, and_true, Bool.not_eq_true', List.contains_eq_mem, decide_eq_false_iff_not,
      List.any_eq_false, occursIn_iff, and_assoc]
    rfl
  constructor
  · intro h
    match names, h with
    | top :: second :: rest, h =>
      obtain ⟨between, name, hrest⟩ := (List.eq_nil_or_concat (second :: rest)).resolve_left (by simp)
      rw [hrest, List.concat_eq_append] at h ⊢
      obtain ⟨⟨stem, hstem, rfl⟩, htop, hname, hfragments⟩ := (hselects _ _ _).mp h
      exact ⟨top, between, stem, rfl, hstem, htop, hname, hfragments⟩
  · rintro ⟨top, between, stem, rfl, hstem, htop, hname, hfragments⟩
    exact (hselects _ _ _).mpr ⟨⟨stem, hstem, rfl⟩, htop, hname, hfragments⟩

end Selection

/-! ## Documents -/

namespace DocumentSet

variable {fs : FileSystem} {s : Selection} {constantsFile : String} {root : Path}

/-- The paths of the selected files under a root, as they are listed. -/
def selectedPaths (s : Selection) (root : Path) (entries : List (String × FileTree)) : List Path :=
  ((FileTree.filesOf entries).filter fun f => s.selects f.1).map fun f => root.below f.1

theorem collect_of_lookup {entries : List (String × FileTree)}
    (h : fs.lookup root = .ok (.directory entries)) : collect fs s constantsFile root = .ok {
      root := root
      pages := (selectedPaths s root entries).mergeSort Path.le
      constants :=
        if fs.hasFile (root.join ⟨constantsFile⟩) then some (root.join ⟨constantsFile⟩) else none } := by
  unfold collect
  rw [h]
  rfl

section
variable {entries : List (String × FileTree)} (h : (FileTree.directory entries).isProper = true)
include h

theorem mem_selectedPaths {p : Path} : p ∈ selectedPaths s root entries ↔ ∃ names content,
    (FileTree.directory entries).entry names = some (.file content) ∧ s.IsPage names ∧
      p = root.below names := by
  simp only [selectedPaths, List.mem_map, List.mem_filter, Selection.selects_iff]
  rw [← FileTree.files]
  simp only [FileTree.mem_files h, Prod.exists]
  constructor
  · rintro ⟨names, content, ⟨hfile, hpage⟩, rfl⟩
    exact ⟨names, content, hfile, hpage, rfl⟩
  · rintro ⟨names, content, hfile, hpage, rfl⟩
    exact ⟨names, content, ⟨hfile, hpage⟩, rfl⟩

theorem ascending_selectedPaths (hroot : root.text ≠ "") :
    Path.StrictlyAscending ((selectedPaths s root entries).mergeSort Path.le) := by
  have hnames : ∀ f ∈ FileTree.filesOf entries, (root.below f.1).components =
      root.components ++ f.1.map .normal := by
    intro f hf
    rw [← FileTree.files, FileTree.mem_files h] at hf
    exact Path.components_below hroot (FileTree.isProper_of_entry h hf).2
  have hnodup : (FileTree.filesOf entries).Pairwise fun f g => f.1 ≠ g.1 :=
    List.pairwise_map.mp (FileTree.nodup_files h)
  refine Path.ascending_mergeSort (List.pairwise_map.mpr ?_)
  refine List.Pairwise.filter _ (hnodup.imp_of_mem fun hf hg hne hcomponents => hne ?_)
  rw [hnames _ hf, hnames _ hg] at hcomponents
  have hinj : Function.Injective Path.Component.normal := fun _ _ he => Path.Component.normal.inj he
  exact hinj.list_map (List.append_cancel_left hcomponents)

end

theorem collect_of_hasDirectory_eq_false (h : fs.hasDirectory root = false) :
    collect fs s constantsFile root = .error ⟨root⟩ := by
  unfold FileSystem.hasDirectory at h
  unfold collect
  revert h
  cases fs.lookup root with
  | error e => exact fun _ => rfl
  | ok u =>
    cases u with
    | file content => exact fun _ => rfl
    | directory entries => exact fun h => nomatch h

/-- Where the same things stand, there are the same documents. -/
theorem collect_congr {gs : FileSystem} (hfs : fs.tree.isProper = true) (hgs : gs.tree.isProper = true)
    (hcurrent : gs.current = fs.current)
    (h : ∀ names, gs.tree.standing? names = fs.tree.standing? names) :
    collect gs s constantsFile root = collect fs s constantsFile root := by
  have hsame : gs.SameDirectories fs := ⟨hcurrent.symm, fun q => by rw [h q]⟩
  cases hd : fs.hasDirectory root with
  | false =>
    rw [collect_of_hasDirectory_eq_false hd,
      collect_of_hasDirectory_eq_false ((hsame.hasDirectory root).trans hd)]
  | true =>
    obtain ⟨parts, q, hparts, hfollow, hq⟩ := FileSystem.hasDirectory_iff.mp hd
    obtain ⟨entries, hentry⟩ := FileTree.standing?_eq_directory_iff.mp hq
    obtain ⟨entries', hentry'⟩ := FileTree.standing?_eq_directory_iff.mp ((h q).trans hq)
    have hfollow' := (FileTree.follow_eq_ok_iff_of_standing? h).mpr hfollow
    rw [← FileSystem.start_congr hcurrent] at hfollow'
    have hlookup := FileSystem.lookup_eq_ok_iff.mpr ⟨parts, q, hparts, hfollow, hentry⟩
    have hlookup' := FileSystem.lookup_eq_ok_iff.mpr ⟨parts, q, hparts, hfollow', hentry'⟩
    obtain ⟨hroot, hproper⟩ := FileTree.isProper_of_lookup hfs hlookup
    obtain ⟨-, hproper'⟩ := FileTree.isProper_of_lookup hgs hlookup'
    have hpages : (selectedPaths s root entries').mergeSort Path.le =
        (selectedPaths s root entries).mergeSort Path.le := by
      refine (ascending_selectedPaths hproper' hroot).eq_of_mem_iff (ascending_selectedPaths hproper hroot)
        fun p => ?_
      simp only [List.mem_mergeSort, mem_selectedPaths hproper', mem_selectedPaths hproper,
        FileTree.entry_eq_file_iff_of_standing? h hentry hentry']
    rw [collect_of_lookup hlookup, collect_of_lookup hlookup', hpages,
      FileSystem.hasFile_congr hcurrent h]

/-- Collecting takes the files that are selected, each once and in strictly ascending order, and the page of
constants if it is a file.  It fails only where the root is no directory, and the order of the entries of
directories does not count. -/
theorem collect_selects_pages (hfs : fs.tree.isProper = true) (s : Selection) (constantsFile : String)
    (root : Path) :
    (fs.hasDirectory root = false → collect fs s constantsFile root = .error ⟨root⟩) ∧
    (∀ entries, fs.lookup root = .ok (.directory entries) →
      ∃ d, collect fs s constantsFile root = .ok d ∧ d.root = root ∧
        (d.pages.Pairwise fun p q => Path.compareComponents p.components q.components = .lt) ∧
        (∀ p, p ∈ d.pages ↔ ∃ names content,
          (FileTree.directory entries).entry names = some (.file content) ∧ s.IsPage names ∧
            p = root.below names) ∧
        ∀ p, d.constants = some p ↔ p = root.join ⟨constantsFile⟩ ∧ fs.hasFile p = true) ∧
    ∀ u, fs.tree.Reordered u →
      collect { fs with tree := u } s constantsFile root = collect fs s constantsFile root := by
  refine ⟨collect_of_hasDirectory_eq_false, fun entries hlookup => ?_, fun u hu => ?_⟩
  · obtain ⟨hroot, hproper⟩ := FileTree.isProper_of_lookup hfs hlookup
    refine ⟨_, collect_of_lookup hlookup, rfl, ascending_selectedPaths hproper hroot, fun p => ?_,
      fun p => ?_⟩
    · rw [List.mem_mergeSort, mem_selectedPaths hproper]
    · rw [Option.ite_none_right_eq_some, Option.some.injEq]
      constructor
      · rintro ⟨hfile, rfl⟩
        exact ⟨rfl, hfile⟩
      · rintro ⟨rfl, hfile⟩
        exact ⟨hfile, rfl⟩
  · obtain ⟨hproper, hstanding⟩ := hu.isProper_and_standing? hfs
    exact collect_congr hfs hproper rfl hstanding

/-- A root that lists pages, one of them in a directory with the name of one that is left out, beside
another directory. -/
def pageTree (entries : List (String × FileTree)) : FileTree :=
  .directory [("docs", .directory entries), ("work", .directory [])]

/-- The documents of a root above the working directory do not change when it lists its entries from the
last to the first. -/
theorem pages_selected_of_pageTree :
    let entries : List (String × FileTree) := [
      ("b", .directory [("B.html", .file []), ("resources", .directory [("R.html", .file [])])]),
      ("index.html", .file []), ("resources", .directory [("X.html", .file [])])]
    let fs : FileSystem := ⟨pageTree entries, ["work"]⟩
    let reversed := pageTree entries.reverse
    fs.tree.isProper = true ∧ fs.tree.Reordered reversed ∧
      ∃ d, collect fs .default "index.html" ⟨"../docs"⟩ = .ok d ∧
        collect { fs with tree := reversed } .default "index.html" ⟨"../docs"⟩ = .ok d ∧
        (⟨"../docs"⟩ : Path).below ["b", "resources", "R.html"] ∈ d.pages ∧
        d.constants = some ⟨"../docs/index.html"⟩ := by
  intro entries fs reversed
  have hfs : fs.tree.isProper = true := by decide +kernel
  have hreordered : fs.tree.Reordered reversed :=
    @FileTree.Reordered.entry [] [("work", .directory [])] "docs" _ _ (.perm entries.reverse_perm.symm)
  have hlookup : fs.lookup ⟨"../docs"⟩ = .ok (.directory entries) := by
    refine FileSystem.lookup_eq_ok_iff.mpr
      ⟨[['.', '.'], "docs".toList], ["docs"], by decide +kernel, ?_, rfl⟩
    decide +kernel
  obtain ⟨-, hok, hsame⟩ := collect_selects_pages hfs .default "index.html" ⟨"../docs"⟩
  obtain ⟨d, hd, -, -, hpages, hconstants⟩ := hok entries hlookup
  refine ⟨hfs, hreordered, d, hd, (hsame _ hreordered).trans hd, ?_, ?_⟩
  · refine (hpages _).mpr ⟨_, [], rfl, Selection.selects_iff.mp ?_, rfl⟩
    decide +kernel
  · exact (hconstants _).mpr ⟨by decide +kernel, by decide +kernel⟩

end DocumentSet

end ApiDoc
