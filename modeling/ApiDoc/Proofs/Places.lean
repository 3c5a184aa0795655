import ApiDoc.FileSystem
import ApiDoc.Proofs.Results

/-!
# Places in a file system

At a place of a tree stands a file, a directory or nothing (`standing?`).  A path names one place
from a working directory, whatever the tree is (`Path.place?`), and what is reached by it is reached
there:

    fs.placeForFile p = .ok names → p.place? fs.current = some names      (place?_of_placeForFile)

Which paths lead to directories, and where files are opened for writing, depends on the places of the
directories only (`SameDirectories.hasDirectory`, `SameDirectories.placeForFile_iff`).
-/

namespace ApiDoc

/-! ## Places that paths name -/

namespace Path

/-- The place a path names when the working directory is at a place, whatever stands there or on the
way.  An absolute path names the same place from everywhere. -/
def place? (current : List String) (p : Path) : Option (List String) :=
  if p.text.isEmpty then none
  else some (p.parts.foldl step (if p.isAbsolute then [] else current))

theorem step_cases (names : List String) (part : List Char) :
    step names part = names ∨ step names part = names.dropLast ∨
      ∃ name, step names part = names ++ [name] := by
  unfold step
  split
  · exact .inl rfl
  split
  · exact .inr (.inl rfl)
  · exact .inr (.inr ⟨_, rfl⟩)

end Path

namespace FileTree

/-! ## What stands where -/

/-- What can stand at a place. -/
inductive Standing
  | file (content : List UInt8)
  | directory
deriving DecidableEq

/-- What a tree is when its entries do not count. -/
def standing : FileTree → Standing
  | .file content => .file content
  | .directory _ => .directory

/-- What stands at a place, if anything does. -/
def standing? (t : FileTree) (names : List String) : Option Standing := (t.entry names).map standing

/-- The content of the file at a place, if a file stands there. -/
def content? (t : FileTree) (names : List String) : Option (List UInt8) :=
  match t.standing? names with
  | some (.file content) => some content
  | _ => none

theorem lookup_cons_eq_ite {n m : String} {u : FileTree} {r : List (String × FileTree)} :
    ((m, u) :: r).lookup n = if n = m then some u else r.lookup n := by
  by_cases h : n = m
  · rw [h, List.lookup_cons_self, if_pos rfl]
  · rw [List.lookup_cons, beq_false_of_ne h, if_neg h]

theorem entry_append {t : FileTree} {a b : List String} :
    t.entry (a ++ b) = (t.entry a).bind fun u => u.entry b := by
  induction a generalizing t with
  | nil => rfl
  | cons n a ih =>
    rw [List.cons_append]
    cases t with
    | file _ => rfl
    | directory entries =>
      simp only [entry, ih, Option.bind_assoc]

theorem standing?_cons {entries : List (String × FileTree)} {n : String} {r : List String} :
    (directory entries).standing? (n :: r) = (entries.lookup n).bind fun u => u.standing? r := by
  rw [standing?, entry, Option.map_bind]
  rfl

theorem standing?_eq_directory_iff {t : FileTree} {names : List String} :
    t.standing? names = some .directory ↔ ∃ entries, t.entry names = some (.directory entries) := by
  unfold standing?
  cases t.entry names with
  | none => simp
  | some u => cases u <;> simp [standing]

theorem standing?_eq_file_iff {t : FileTree} {names : List String} {content : List UInt8} :
    t.standing? names = some (.file content) ↔ t.entry names = some (.file content) := by
  unfold standing?
  cases t.entry names with
  | none => simp
  | some u => cases u <;> simp [standing]

/-- Only below a directory can something stand. -/
theorem standing?_append_of_ne {t : FileTree} {a b : List String}
    (ha : t.standing? a ≠ some .directory) (hb : b ≠ []) : t.standing? (a ++ b) = none := by
  obtain ⟨n, r, rfl⟩ := List.exists_cons_of_ne_nil hb
  unfold standing? at ha ⊢
  rw [entry_append]
  cases he : t.entry a with
  | none => rfl
  | some u =>
    cases u with
    | file _ => rfl
    | directory _ => exact absurd (by rw [he]; rfl) ha

theorem standing?_of_append {t : FileTree} {a b : List String} (hb : b ≠ [])
    (h : t.standing? (a ++ b) ≠ none) : t.standing? a = some .directory :=
  Classical.byContradiction fun ha => h (standing?_append_of_ne ha hb)

/-- A name in a directory is that of the place below it. -/
theorem standing?_concat {t : FileTree} {names : List String} {entries : List (String × FileTree)}
    (h : t.entry names = some (.directory entries)) (n : String) :
    t.standing? (names ++ [n]) = (entries.lookup n).map standing := by
  rw [standing?, entry_append, h, Option.bind_some, entry]
  cases entries.lookup n <;> rfl

/-! ## Following paths -/

/-- A path leads to a directory. -/
def LeadsTo (t : FileTree) (names : List String) (parts : List (List Char)) (q : List String) :
    Prop := t.follow names parts = .ok q ∧ t.standing? q = some .directory

/-- Whether a part of a path can be the name of something. -/
def IsShort (part : List Char) : Prop := (String.ofList part).utf8ByteSize ≤ longestName

instance (part : List Char) : Decidable (IsShort part) :=
  inferInstanceAs (Decidable ((String.ofList part).utf8ByteSize ≤ longestName))

/-- Parts that lead nowhere are no long names. -/
theorem isShort_of_skipped {part : List Char} (h : part = [] ∨ part = ['.']) : IsShort part := by
  rcases h with rfl | rfl <;> decide

theorem isShort_dots : IsShort ['.', '.'] := by decide

/-- Above a directory stands a directory; above the top there is only the top. -/
theorem standing?_dropLast {t : FileTree} {names : List String}
    (h : t.standing? names = some .directory) : t.standing? names.dropLast = some .directory := by
  rcases List.eq_nil_or_concat names with rfl | ⟨above, n, rfl⟩
  · exact h
  · rw [List.concat_eq_append] at h ⊢
    rw [List.dropLast_concat]
    exact standing?_of_append (List.cons_ne_nil n []) (by rw [h]; exact Option.some_ne_none _)

/-- A path leads on where it stands at a directory and its next part leads to something. -/
theorem follow_cons_eq_ok_iff {t : FileTree} {names : List String} {part : List Char}
    {r : List (List Char)} {q : List String} :
    t.follow names (part :: r) = .ok q ↔ t.standing? names = some .directory ∧ IsShort part ∧
      t.standing? (Path.step names part) ≠ none ∧ t.follow (Path.step names part) r = .ok q := by
  have herror : ∀ {e : FileError}, (Except.error e : Except FileError (List String)) ≠ .ok q := by
    intro e h
    cases h
  rw [follow]
  cases he : t.entry names with
  | none => simp [standing?, he, herror]
  | some u =>
    cases u with
    | file _ => simp [standing?, he, standing, herror]
    | directory entries =>
      have hnames : t.standing? names = some .directory := by rw [standing?, he]; rfl
      have hstands : t.standing? names ≠ none := by rw [hnames]; exact Option.some_ne_none _
      by_cases hskip : part = [] ∨ part = ['.']
      · simp [Path.step, hskip, hnames, isShort_of_skipped hskip]
      · by_cases hup : part = ['.', '.']
        · subst hup
          simp [Path.step, hnames, isShort_dots, standing?_dropLast hnames]
        · have hlookup : (entries.lookup (String.ofList part)).isSome =
              (t.standing? (names ++ [String.ofList part])).isSome := by
            rw [standing?_concat he, Option.isSome_map]
          simp only [if_neg hskip, if_neg hup, Path.step, hnames, true_and, hlookup]
          by_cases hshort : IsShort part
          · rw [if_neg (Nat.not_lt.mpr hshort)]
            cases t.standing? (names ++ [String.ofList part]) with
            | none => simp [herror]
            | some s => simp [hshort]
          · rw [if_pos (Nat.lt_of_not_le hshort)]
            simp [hshort, herror]

/-- The place a path leads to is the place it names. -/
theorem foldl_step_of_follow {t : FileTree} {names q : List String} {parts : List (List Char)}
    (h : t.follow names parts = .ok q) : parts.foldl Path.step names = q := by
  induction parts generalizing names with
  | nil => exact Except.ok.inj h
  | cons part r ih =>
    obtain ⟨-, -, -, hnext⟩ := follow_cons_eq_ok_iff.mp h
    exact ih hnext

theorem follow_append {t : FileTree} {names next q : List String} {a b : List (List Char)}
    (ha : t.follow names a = .ok next) (hb : t.follow next b = .ok q) :
    t.follow names (a ++ b) = .ok q := by
  induction a generalizing names with
  | nil => rwa [← Except.ok.inj ha] at hb
  | cons part a ih =>
    obtain ⟨hdir, hshort, hstands, hnext⟩ := follow_cons_eq_ok_iff.mp ha
    exact follow_cons_eq_ok_iff.mpr ⟨hdir, hshort, hstands, ih hnext⟩

/-- What leads to a directory starts at one. -/
theorem LeadsTo.start {t : FileTree} {names q : List String} {parts : List (List Char)}
    (h : t.LeadsTo names parts q) : t.standing? names = some .directory := by
  cases parts with
  | nil => exact Except.ok.inj h.1 ▸ h.2
  | cons part r => exact (follow_cons_eq_ok_iff.mp h.1).1

/-- A path that leads to a directory leads through directories only. -/
theorem leadsTo_cons_iff {t : FileTree} {names q : List String} {part : List Char}
    {r : List (List Char)} :
    t.LeadsTo names (part :: r) q ↔ t.standing? names = some .directory ∧ IsShort part ∧
      t.LeadsTo (Path.step names part) r q := by
  rw [LeadsTo, follow_cons_eq_ok_iff]
  constructor
  · rintro ⟨⟨hdir, hshort, -, hnext⟩, hq⟩
    exact ⟨hdir, hshort, hnext, hq⟩
  · rintro ⟨hdir, hshort, hnext⟩
    exact ⟨⟨hdir, hshort, by simp [hnext.start], hnext.1⟩, hnext.2⟩

/-- The trees have the same directories. -/
def SameDirectories (t u : FileTree) : Prop :=
  ∀ q, t.standing? q = some .directory ↔ u.standing? q = some .directory

theorem SameDirectories.leadsTo_iff {t u : FileTree} (h : t.SameDirectories u)
    {names q : List String} {parts : List (List Char)} :
    t.LeadsTo names parts q ↔ u.LeadsTo names parts q := by
  induction parts generalizing names with
  | nil => simp only [LeadsTo, follow, h q]
  | cons part r ih => simp only [leadsTo_cons_iff, h names, ih]

end FileTree

namespace FileSystem

open FileTree

/-! ## Looking up paths -/

/-- The file systems have the same directories, and work in the same one of them. -/
structure SameDirectories (fs gs : FileSystem) : Prop where
  current : gs.current = fs.current
  tree : fs.tree.SameDirectories gs.tree

theorem SameDirectories.symm {fs gs : FileSystem} (h : fs.SameDirectories gs) :
    gs.SameDirectories fs :=
  ⟨h.current.symm, fun q => (h.tree q).symm⟩

theorem SameDirectories.trans {fs gs hs : FileSystem} (h : fs.SameDirectories gs)
    (h' : gs.SameDirectories hs) : fs.SameDirectories hs :=
  ⟨h'.current.trans h.current, fun q => (h.tree q).trans (h'.tree q)⟩

/-- Paths start at the same places. -/
theorem start_congr {fs gs : FileSystem} (h : gs.current = fs.current) (p : Path) :
    gs.start p = fs.start p := by
  rw [start, start, h]

section
variable {fs gs : FileSystem} {p : Path}

theorem lookup_eq_ok_iff {t : FileTree} :
    fs.lookup p = .ok t ↔ ∃ parts q, lookupParts p = .ok parts ∧
      fs.tree.follow (fs.start p) parts = .ok q ∧ fs.tree.entry q = some t := by
  simp only [lookup, Except.bind_eq_ok_iff]
  constructor
  · rintro ⟨parts, hp, q, hf, h⟩
    split at h
    · next v he => exact ⟨parts, q, hp, hf, by rw [he, Except.pure_eq_ok_iff.mp h]⟩
    · cases h
  · rintro ⟨parts, q, hp, hf, he⟩
    exact ⟨parts, hp, q, hf, by rw [he]; rfl⟩

theorem hasDirectory_iff : fs.hasDirectory p = true ↔
    ∃ parts q, lookupParts p = .ok parts ∧ fs.tree.LeadsTo (fs.start p) parts q := by
  have hlookup : fs.hasDirectory p = true ↔ ∃ entries, fs.lookup p = .ok (.directory entries) := by
    unfold hasDirectory
    cases fs.lookup p with
    | error e => simp
    | ok u => cases u <;> simp
  simp only [hlookup, lookup_eq_ok_iff, LeadsTo, standing?_eq_directory_iff]
  constructor
  · rintro ⟨entries, parts, q, hp, hf, he⟩
    exact ⟨parts, q, hp, hf, entries, he⟩
  · rintro ⟨parts, q, hp, hf, entries, he⟩
    exact ⟨entries, parts, q, hp, hf, he⟩

theorem SameDirectories.hasDirectory (h : fs.SameDirectories gs) (p : Path) :
    fs.hasDirectory p = gs.hasDirectory p := by
  rw [Bool.eq_iff_iff, hasDirectory_iff, hasDirectory_iff, start_congr h.current]
  simp only [h.tree.leadsTo_iff]

/-! ## Places of files -/

theorem parts_of_lookupParts {parts : List (List Char)} (h : lookupParts p = .ok parts) :
    p.text.isEmpty = false ∧ p.parts = parts := by
  unfold lookupParts at h
  split at h
  · cases h
  split at h
  · cases h
  split at h
  · cases h
  · next hnonempty _ => exact ⟨Bool.not_eq_true _ ▸ hnonempty, Except.ok.inj h⟩

theorem exists_of_lookupParts {parts : List (List Char)} (h : lookupParts p = .ok parts) :
    ∃ before last, parts = before ++ [last] := by
  obtain ⟨-, rfl⟩ := parts_of_lookupParts h
  obtain hnil | ⟨before, last, hparts⟩ := List.eq_nil_or_concat p.parts
  · exact absurd hnil (List.splitOnP_ne_nil _ _)
  · exact ⟨before, last, hparts.trans (List.concat_eq_append ..)⟩

theorem place?_of_lookupParts {parts : List (List Char)} (h : lookupParts p = .ok parts) :
    p.place? fs.current = some (parts.foldl Path.step (fs.start p)) := by
  obtain ⟨hnonempty, hparts⟩ := parts_of_lookupParts h
  rw [Path.place?, hnonempty, hparts]
  rfl

theorem splitLast_append {before : List (List Char)} {last : List Char} (h : last ≠ []) :
    splitLast (before ++ [last]) = (before, last) := by
  simp [splitLast, h]

/-- A part of a path that a file can have as its name. -/
def IsFileName (part : List Char) : Prop :=
  part ≠ [] ∧ part ≠ ['.'] ∧ part ≠ ['.', '.'] ∧ IsShort part

theorem IsFileName.step {part : List Char} (h : IsFileName part) (names : List String) :
    Path.step names part = names ++ [String.ofList part] := by
  obtain ⟨hne, hdot, hdots, -⟩ := h
  rw [Path.step, if_neg (by simp [hne, hdot]), if_neg hdots]

/-- The place of a file that is opened for writing lies in a directory that stands, and no directory
stands there. -/
theorem placeForFile_eq_ok_iff {names : List String} :
    fs.placeForFile p = .ok names ↔ ∃ before last parent, lookupParts p = .ok (before ++ [last]) ∧
      IsFileName last ∧ fs.tree.LeadsTo (fs.start p) before parent ∧
      names = parent ++ [String.ofList last] ∧ fs.tree.standing? names ≠ some .directory := by
  constructor
  · intro h
    unfold placeForFile at h
    cases hp : lookupParts p with
    | error e => rw [hp] at h; cases h
    | ok parts =>
      obtain ⟨before, last, rfl⟩ := exists_of_lookupParts hp
      simp only [hp, bind, Except.bind] at h
      split at h
      · cases h
      next parent hfollow =>
      split at h
      · cases h
      · cases h
      next entries he =>
      split at h
      · cases h
      next hspecial =>
      split at h
      · cases h
      next hshort =>
      rw [List.getLast?_concat, Option.some.injEq] at hspecial
      have hlast : last ≠ [] := fun h => hspecial (.inl h)
      rw [splitLast_append hlast] at h hspecial hshort hfollow
      refine ⟨before, last, parent, rfl, ⟨hlast, ?_, ?_, Nat.le_of_not_lt hshort⟩,
        ⟨hfollow, by rw [standing?, he]; rfl⟩, ?_⟩
      · exact fun h => hspecial (.inr (.inl h))
      · exact fun h => hspecial (.inr (.inr h))
      · split at h
        · cases h
        · next hfile =>
          obtain rfl := Except.ok.inj h
          refine ⟨rfl, ?_⟩
          rw [standing?_concat he]
          intro hdir
          obtain ⟨u, hu, hstanding⟩ := Option.map_eq_some_iff.mp hdir
          cases u with
          | file _ => cases hstanding
          | directory below => exact hfile below hu
  · rintro ⟨before, last, parent, hp, ⟨hlast, hdot, hdots, hshort⟩, ⟨hfollow, hdir⟩, rfl, hplace⟩
    obtain ⟨entries, he⟩ := standing?_eq_directory_iff.mp hdir
    rw [standing?_concat he] at hplace
    unfold placeForFile
    simp only [hp, bind, Except.bind, splitLast_append hlast, hfollow, he, List.getLast?_concat]
    rw [if_neg (by simp [hlast, hdot, hdots]), if_neg (Nat.not_lt.mpr hshort)]
    cases hl : entries.lookup (String.ofList last) with
    | none => rfl
    | some u =>
      cases u with
      | file _ => rfl
      | directory _ => exact absurd (by rw [hl]; rfl) hplace

variable {names : List String} {content : List UInt8}

/-- A file is opened at the place its path names. -/
theorem place?_of_placeForFile (h : fs.placeForFile p = .ok names) :
    p.place? fs.current = some names := by
  obtain ⟨before, last, parent, hp, hlast, hlead, rfl, -⟩ := placeForFile_eq_ok_iff.mp h
  rw [place?_of_lookupParts hp, List.foldl_append, foldl_step_of_follow hlead.1, List.foldl_cons,
    hlast.step, List.foldl_nil]

theorem SameDirectories.placeForFile_iff (h : fs.SameDirectories gs) :
    fs.placeForFile p = .ok names ↔ gs.placeForFile p = .ok names := by
  simp only [placeForFile_eq_ok_iff, start_congr h.current, h.tree.leadsTo_iff, h.tree names, ne_eq]

theorem standing?_ne_of_placeForFile (h : fs.placeForFile p = .ok names) :
    fs.tree.standing? names ≠ some .directory := by
  obtain ⟨_, _, _, _, _, _, _, hplace⟩ := placeForFile_eq_ok_iff.mp h
  exact hplace

theorem read_eq_ok_iff : fs.read p = .ok content ↔ ∃ parts q, lookupParts p = .ok parts ∧
    fs.tree.follow (fs.start p) parts = .ok q ∧
      fs.tree.standing? q = some (.file content) := by
  simp only [standing?_eq_file_iff, ← lookup_eq_ok_iff, read, Except.bind_eq_ok_iff]
  constructor
  · rintro ⟨u, hu, h⟩
    split at h
    · rwa [Except.pure_eq_ok_iff.mp h] at hu
    · cases h
  · intro h
    exact ⟨_, h, rfl⟩

end

end FileSystem

end ApiDoc
