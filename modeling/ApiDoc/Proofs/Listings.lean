import ApiDoc.Proofs.Places
import Mathlib.Data.List.Nodup

/-!
# The files of a tree

A directory lists proper names, and none of them twice (`FileTree.isProper`).  In a tree of such
directories a walk lists the files that stand at a place (`FileTree.mem_files`), each of them once
(`FileTree.nodup_files`), and what stands at a place does not depend on the order in which directories
list their entries (`FileTree.Reordered.isProper_and_standing?`).
-/

namespace ApiDoc

namespace FileTree

/-! ## Listings -/

/-- A name that a directory can list. -/
def IsEntryName (name : String) : Prop := name ≠ "" ∧ name ≠ "." ∧ name ≠ ".." ∧ '/' ∉ name.toList

instance (name : String) : Decidable (IsEntryName name) := inferInstanceAs (Decidable (_ ∧ _))

mutual

/-- Whether each directory of a tree lists proper names, and none of them twice. -/
def isProper : FileTree → Bool
  | .file _ => true
  | .directory entries => decide (entries.map (·.1)).Nodup && areProper entries
termination_by structural t => t

/-- Whether entries have proper names and are proper trees themselves. -/
def areProper : List (String × FileTree) → Bool
  | [] => true
  | (name, t) :: r => decide (IsEntryName name) && isProper t && areProper r
termination_by structural l => l

end

theorem areProper_iff {entries : List (String × FileTree)} :
    areProper entries = true ↔ ∀ e ∈ entries, IsEntryName e.1 ∧ e.2.isProper = true := by
  induction entries with
  | nil => simp [areProper]
  | cons e r ih =>
    obtain ⟨name, t⟩ := e
    rw [areProper, Bool.and_eq_true, Bool.and_eq_true, decide_eq_true_iff, ih, List.forall_mem_cons]

theorem isProper_directory_iff {entries : List (String × FileTree)} :
    (directory entries).isProper = true ↔ (entries.map (·.1)).Nodup ∧
      ∀ e ∈ entries, IsEntryName e.1 ∧ e.2.isProper = true := by
  rw [isProper, Bool.and_eq_true, decide_eq_true_iff, areProper_iff]

/-- Where names are listed once, the entry with a name is the one a lookup finds. -/
theorem lookup_eq_some_iff_of_nodup {entries : List (String × FileTree)} (h : (entries.map (·.1)).Nodup)
    {name : String} {t : FileTree} : entries.lookup name = some t ↔ (name, t) ∈ entries := by
  induction entries with
  | nil => simp
  | cons e r ih =>
    obtain ⟨m, u⟩ := e
    obtain ⟨hm, hr⟩ := List.nodup_cons.mp h
    rw [lookup_cons_eq_ite, List.mem_cons, Prod.mk.injEq]
    split
    · next heq =>
      subst heq
      have hnot : (name, t) ∉ r := fun hmem => hm (List.mem_map.mpr ⟨_, hmem, rfl⟩)
      simp [hnot, eq_comm]
    · next hne => simp [ih hr, hne]

/-- What stands at a place of a proper tree is a proper tree, with proper names on the way. -/
theorem isProper_of_entry {t u : FileTree} (h : t.isProper = true) {names : List String}
    (hu : t.entry names = some u) : u.isProper = true ∧ ∀ name ∈ names, IsEntryName name := by
  induction names generalizing t with
  | nil =>
    cases hu
    exact ⟨h, List.forall_mem_nil _⟩
  | cons n r ih =>
    cases t with
    | file content => cases hu
    | directory entries =>
      obtain ⟨hnodup, hentries⟩ := isProper_directory_iff.mp h
      obtain ⟨v, hv, hu⟩ := Option.bind_eq_some_iff.mp hu
      obtain ⟨hname, hv⟩ := hentries _ ((lookup_eq_some_iff_of_nodup hnodup).mp hv)
      obtain ⟨hproper, hnames⟩ := ih hv hu
      exact ⟨hproper, List.forall_mem_cons.mpr ⟨hname, hnames⟩⟩

/-- What a path leads to in a proper tree is a proper tree. -/
theorem isProper_of_lookup {fs : FileSystem} (h : fs.tree.isProper = true) {p : Path} {u : FileTree}
    (hu : fs.lookup p = .ok u) : p.text ≠ "" ∧ u.isProper = true := by
  obtain ⟨parts, q, hparts, -, hentry⟩ := FileSystem.lookup_eq_ok_iff.mp hu
  refine ⟨fun he => ?_, (isProper_of_entry h hentry).1⟩
  have hnonempty := (FileSystem.parts_of_lookupParts hparts).1
  rw [he] at hnonempty
  cases hnonempty

/-! ## Files -/

theorem mem_filesOf_cons {name : String} {t : FileTree} {r : List (String × FileTree)}
    {f : List String × List UInt8} : f ∈ filesOf ((name, t) :: r) ↔
      (∃ rest, (rest, f.2) ∈ t.files ∧ f.1 = name :: rest) ∨ f ∈ filesOf r := by
  rw [filesOf, List.mem_append, List.mem_map]
  refine or_congr_left ⟨?_, ?_⟩
  · rintro ⟨g, hg, rfl⟩
    exact ⟨g.1, hg, rfl⟩
  · rintro ⟨rest, hrest, hf⟩
    exact ⟨_, hrest, by rw [← hf]⟩

mutual

/-- A walk lists the files that stand in a tree. -/
theorem mem_files {t : FileTree} (h : t.isProper = true) {f : List String × List UInt8} :
    f ∈ t.files ↔ t.entry f.1 = some (.file f.2) := by
  cases t with
  | file content =>
    obtain ⟨names, content'⟩ := f
    cases names with
    | nil => simp [files, entry, eq_comm]
    | cons n r => simp [files, entry]
  | directory entries =>
    obtain ⟨hnodup, hentries⟩ := isProper_directory_iff.mp h
    rw [files, mem_filesOf hnodup fun e he => (hentries e he).2]

theorem mem_filesOf {entries : List (String × FileTree)} (hnodup : (entries.map (·.1)).Nodup)
    (h : ∀ e ∈ entries, e.2.isProper = true) {f : List String × List UInt8} :
    f ∈ filesOf entries ↔ (directory entries).entry f.1 = some (.file f.2) := by
  cases entries with
  | nil =>
    obtain ⟨names, content⟩ := f
    cases names <;> simp [filesOf, entry]
  | cons e r =>
    obtain ⟨name, t⟩ := e
    obtain ⟨hname, hr⟩ := List.nodup_cons.mp hnodup
    obtain ⟨ht, hproper⟩ := List.forall_mem_cons.mp h
    obtain ⟨names, content⟩ := f
    rw [mem_filesOf_cons, mem_filesOf hr hproper]
    cases names with
    | nil => simp [entry]
    | cons m rest =>
      simp only [entry, lookup_cons_eq_ite, List.cons.injEq]
      by_cases hm : m = name
      · subst hm
        have hnone : r.lookup m = none := Option.eq_none_iff_forall_ne_some.mpr fun u hu =>
          hname (List.mem_map.mpr ⟨_, (lookup_eq_some_iff_of_nodup hr).mp hu, rfl⟩)
        simp [hnone, mem_files ht]
      · simp [hm]

end

mutual

/-- A walk lists no place twice. -/
theorem nodup_files {t : FileTree} (h : t.isProper = true) : (t.files.map (·.1)).Nodup := by
  cases t with
  | file content => exact List.nodup_singleton []
  | directory entries =>
    obtain ⟨hnodup, hentries⟩ := isProper_directory_iff.mp h
    exact nodup_filesOf hnodup fun e he => (hentries e he).2

theorem nodup_filesOf {entries : List (String × FileTree)} (hnodup : (entries.map (·.1)).Nodup)
    (h : ∀ e ∈ entries, e.2.isProper = true) : ((filesOf entries).map (·.1)).Nodup := by
  cases entries with
  | nil => exact List.nodup_nil
  | cons e r =>
    obtain ⟨name, t⟩ := e
    obtain ⟨hname, hr⟩ := List.nodup_cons.mp hnodup
    obtain ⟨ht, hproper⟩ := List.forall_mem_cons.mp h
    rw [filesOf, List.map_append, List.map_map]
    refine List.nodup_append.mpr ⟨?_, nodup_filesOf hr hproper, ?_⟩
    · have hfiles := (nodup_files ht).map (List.cons_injective (a := name))
      rwa [List.map_map] at hfiles
    · -- the other places start with the name of another entry
      intro a ha b hb hab
      obtain ⟨f, -, rfl⟩ := List.mem_map.mp ha
      obtain ⟨g, hg, rfl⟩ := List.mem_map.mp hb
      rw [mem_filesOf hr hproper, ← hab, Function.comp_apply, entry] at hg
      obtain ⟨u, hu, -⟩ := Option.bind_eq_some_iff.mp hg
      exact hname (List.mem_map.mpr ⟨_, (lookup_eq_some_iff_of_nodup hr).mp hu, rfl⟩)

end

/-! ## The order of entries -/

/-- Trees that differ in nothing but the order in which directories list their entries. -/
inductive Reordered : FileTree → FileTree → Prop
  | refl (t : FileTree) : Reordered t t
  | trans {t u v : FileTree} (htu : Reordered t u) (huv : Reordered u v) : Reordered t v
  /-- A directory lists its entries in another order. -/
  | perm {l m : List (String × FileTree)} (h : l.Perm m) : Reordered (.directory l) (.directory m)
  /-- A tree in a directory is reordered. -/
  | entry {before after : List (String × FileTree)} {name : String} {t u : FileTree} (h : Reordered t u) :
    Reordered (.directory (before ++ (name, t) :: after)) (.directory (before ++ (name, u) :: after))

theorem Reordered.isProper_and_standing? {t u : FileTree} (h : t.Reordered u) (ht : t.isProper = true) :
    u.isProper = true ∧ ∀ names, u.standing? names = t.standing? names := by
  induction h with
  | refl t => exact ⟨ht, fun _ => rfl⟩
  | trans _ _ ihtu ihuv =>
    obtain ⟨hu, htu⟩ := ihtu ht
    obtain ⟨hv, huv⟩ := ihuv hu
    exact ⟨hv, fun names => (huv names).trans (htu names)⟩
  | @perm l m h =>
    obtain ⟨hnodup, hentries⟩ := isProper_directory_iff.mp ht
    have hnodup' := (h.map (·.1)).nodup_iff.mp hnodup
    refine ⟨isProper_directory_iff.mpr ⟨hnodup', fun e he => hentries e (h.mem_iff.mpr he)⟩,
      fun names => ?_⟩
    cases names with
    | nil => rfl
    | cons n r =>
      have hlookup : m.lookup n = l.lookup n := by
        refine Option.ext fun v => ?_
        rw [lookup_eq_some_iff_of_nodup hnodup', lookup_eq_some_iff_of_nodup hnodup, h.mem_iff]
      rw [standing?_cons, standing?_cons, hlookup]
  | @entry before after name t u _ ih =>
    obtain ⟨hnodup, hentries⟩ := isProper_directory_iff.mp ht
    obtain ⟨hname, ht⟩ := hentries (name, t) (List.mem_append_right _ List.mem_cons_self)
    obtain ⟨hu, hstanding⟩ := ih ht
    constructor
    · refine isProper_directory_iff.mpr ⟨by simpa using hnodup, fun e he => ?_⟩
      rcases List.mem_append.mp he with he | he
      · exact hentries e (List.mem_append_left _ he)
      · rcases List.mem_cons.mp he with rfl | he
        · exact ⟨hname, hu⟩
        · exact hentries e (List.mem_append_right _ (List.mem_cons_of_mem _ he))
    · rintro (_ | ⟨n, r⟩)
      · rfl
      · rw [standing?_cons, standing?_cons, List.lookup_append, List.lookup_append, lookup_cons_eq_ite,
          lookup_cons_eq_ite]
        cases before.lookup n with
        | some v => rfl
        | none =>
          by_cases hn : n = name
          · simp [hn, hstanding]
          · simp [hn]

/-- What stands below a place depends on what stands where. -/
theorem entry_eq_file_iff_of_standing? {t u v w : FileTree} {q : List String}
    (h : ∀ names, u.standing? names = t.standing? names) (ht : t.entry q = some v)
    (hu : u.entry q = some w) {names : List String} {content : List UInt8} :
    w.entry names = some (.file content) ↔ v.entry names = some (.file content) := by
  have hq : w.standing? names = v.standing? names := by
    have hq := h (q ++ names)
    rwa [standing?, standing?, entry_append, entry_append, ht, hu] at hq
  rw [← standing?_eq_file_iff, hq, standing?_eq_file_iff]

/-- What a path leads to depends on what stands where. -/
theorem follow_eq_ok_iff_of_standing? {t u : FileTree} (h : ∀ names, u.standing? names = t.standing? names)
    {names q : List String} {parts : List (List Char)} :
    u.follow names parts = .ok q ↔ t.follow names parts = .ok q := by
  induction parts generalizing names with
  | nil => rfl
  | cons part r ih => simp only [follow_cons_eq_ok_iff, h, ih]

end FileTree

namespace FileSystem

open FileTree

theorem hasFile_iff {fs : FileSystem} {p : Path} : fs.hasFile p = true ↔ ∃ parts q content,
    lookupParts p = .ok parts ∧ fs.tree.follow (fs.start p) parts = .ok q ∧
      fs.tree.standing? q = some (.file content) := by
  have hlookup : fs.hasFile p = true ↔ ∃ content, fs.lookup p = .ok (.file content) := by
    unfold hasFile
    cases fs.lookup p with
    | error e => simp
    | ok u => cases u <;> simp
  simp only [hlookup, lookup_eq_ok_iff, standing?_eq_file_iff]
  constructor
  · rintro ⟨content, parts, q, hp, hf, he⟩
    exact ⟨parts, q, content, hp, hf, he⟩
  · rintro ⟨parts, q, content, hp, hf, he⟩
    exact ⟨content, parts, q, hp, hf, he⟩

theorem hasFile_congr {fs gs : FileSystem} (hcurrent : gs.current = fs.current)
    (h : ∀ names, gs.tree.standing? names = fs.tree.standing? names) (p : Path) :
    gs.hasFile p = fs.hasFile p := by
  rw [Bool.eq_iff_iff, hasFile_iff, hasFile_iff, start_congr hcurrent]
  simp only [follow_eq_ok_iff_of_standing? h, h]

end FileSystem

end ApiDoc
