import ApiDoc.Proofs.Places
import Mathlib.Logic.Function.Basic

/-!
# Changes of a file system

A change of a tree is told by what stands where afterwards.  A file is written at one place:

    fs.placeForFile p = .ok names → (fs.tree.put names (.file content)).standing? =
      update fs.tree.standing? names (some (.file content))             (standing?_put_file)
    fs.write p content = .ok gs → gs.read p = .ok content               (read_of_write)

Making directories changes no file, whether all of them can be made or not (`grows_createDirectory`).
Whether a file can be made at a path (`CanCreate`) depends on what kind of thing stands at which
place, and not on the contents of files (`SameShape.canCreate_iff`).
-/

namespace ApiDoc

namespace FileTree

/-! ## Putting a tree at a place -/

/-- A tree without anything below it. -/
def IsLeaf (t : FileTree) : Prop := ∀ names, names ≠ [] → t.standing? names = none

theorem isLeaf_file (content : List UInt8) : (file content).IsLeaf := by
  rintro (_ | ⟨n, r⟩) h
  · exact absurd rfl h
  · rfl

theorem isLeaf_emptyDirectory : (directory []).IsLeaf := by
  rintro (_ | ⟨n, r⟩) h
  · exact absurd rfl h
  · rfl

theorem lookup_bindName {name : String} {u : FileTree} {entries : List (String × FileTree)}
    {n : String} :
    (bindName name u entries).lookup n = if n = name then some u else entries.lookup n := by
  induction entries with
  | nil => rw [bindName, lookup_cons_eq_ite]
  | cons e r ih =>
    obtain ⟨m, v⟩ := e
    rw [bindName]
    split
    · next hm =>
      obtain rfl : m = name := hm
      by_cases hn : n = m <;> simp [lookup_cons_eq_ite, hn]
    · next hm =>
      rw [lookup_cons_eq_ite, lookup_cons_eq_ite, ih]
      by_cases hn : n = m
      · subst hn
        simp [show ¬n = name from hm]
      · simp [hn]

theorem standing?_bindName {name : String} {u : FileTree} {entries : List (String × FileTree)}
    {n : String} {r : List String} :
    (directory (bindName name u entries)).standing? (n :: r) =
      if n = name then u.standing? r else (directory entries).standing? (n :: r) := by
  rw [standing?_cons, standing?_cons, lookup_bindName]
  split <;> rfl

/-- A tree with nothing below it is put into a directory: at its place it stands, everywhere else
stands what stood there. -/
theorem standing?_put {t u : FileTree} {parent : List String} {name : String}
    (hparent : t.standing? parent = some .directory)
    (hplace : t.standing? (parent ++ [name]) ≠ some .directory) (hu : u.IsLeaf) :
    (t.put (parent ++ [name]) u).standing? =
      Function.update t.standing? (parent ++ [name]) (some u.standing) := by
  induction parent generalizing t with
  | nil =>
    obtain ⟨entries, he⟩ := standing?_eq_directory_iff.mp hparent
    obtain rfl : t = .directory entries := Option.some.inj he
    funext q
    rw [List.nil_append, put, put]
    rcases q with _ | ⟨m, _ | ⟨k, r⟩⟩
    · rw [Function.update_of_ne (by simp)]
      rfl
    · rw [standing?_bindName]
      by_cases hm : m = name
      · rw [if_pos hm, hm, Function.update_self]
        rfl
      · rw [if_neg hm, Function.update_of_ne (by simp [hm])]
    · rw [standing?_bindName, Function.update_of_ne (by simp)]
      by_cases hm : m = name
      · subst hm
        rw [if_pos rfl, hu _ (by simp)]
        exact (standing?_append_of_ne hplace (List.cons_ne_nil k r)).symm
      · rw [if_neg hm]
  | cons k parent ih =>
    cases t with
    | file _ => cases hparent
    | directory entries =>
      rw [standing?_cons] at hparent
      rw [List.cons_append, standing?_cons] at hplace
      cases hk : entries.lookup k with
      | none => rw [hk] at hparent; cases hparent
      | some t =>
        rw [hk, Option.bind_some] at hparent hplace
        funext q
        rw [List.cons_append, put, hk, Option.getD_some]
        cases q with
        | nil =>
          rw [Function.update_of_ne (by simp)]
          rfl
        | cons m r =>
          rw [standing?_bindName, ih hparent hplace]
          by_cases hm : m = k
          · -- below the first name the tree is put by the induction hypothesis
            subst hm
            rw [if_pos rfl]
            by_cases hr : r = parent ++ [name]
            · rw [hr, Function.update_self, Function.update_self]
            · rw [Function.update_of_ne hr, Function.update_of_ne (by simp [hr]), standing?_cons, hk,
                Option.bind_some]
          · rw [if_neg hm, Function.update_of_ne (by simp [hm])]

/-! ## Making directories -/

/-- Directories were made where nothing stood, and nothing else changed. -/
def Grows (t u : FileTree) : Prop :=
  ∀ q, u.standing? q = t.standing? q ∨ t.standing? q = none ∧ u.standing? q = some .directory

theorem Grows.refl (t : FileTree) : t.Grows t := fun _ => .inl rfl

theorem Grows.trans {t u v : FileTree} (h : t.Grows u) (h' : u.Grows v) : t.Grows v := by
  intro q
  rcases h q with hq | ⟨hnone, hdir⟩
  · rw [← hq]
    exact h' q
  · refine .inr ⟨hnone, ?_⟩
    rcases h' q with hq | ⟨hnone', -⟩
    · rw [hq, hdir]
    · rw [hdir] at hnone'
      cases hnone'

theorem Grows.content?_eq {t u : FileTree} (h : t.Grows u) (q : List String) :
    u.content? q = t.content? q := by
  rcases h q with hq | ⟨hnone, hdir⟩
  · rw [content?, content?, hq]
  · rw [content?, content?, hnone, hdir]

/-- Where a path leads on from a directory to nothing, a directory is made and nothing else
changes. -/
theorem standing?_put_step {t : FileTree} {names : List String} {part : List Char}
    (hnames : t.standing? names = some .directory) (hnext : t.standing? (Path.step names part) = none) :
    (t.put (Path.step names part) (.directory [])).standing? =
      Function.update t.standing? (Path.step names part) (some .directory) := by
  rcases Path.step_cases names part with h | h | ⟨name, h⟩ <;> rw [h] at hnext ⊢
  · rw [hnames] at hnext
    cases hnext
  · rw [standing?_dropLast hnames] at hnext
    cases hnext
  · exact standing?_put hnames (by simp [hnext]) isLeaf_emptyDirectory

/-- Directories are made part by part: the next place is a directory, or nothing and becomes one. -/
theorem makeDirectories_cons (t : FileTree) (made : Bool) (names : List String) (part : List Char)
    (r : List (List Char)) : t.makeDirectories made names (part :: r) =
      match t.standing? names with
      | none => (t, some .notFound)
      | some (.file _) => (t, some .notDirectory)
      | some .directory =>
        if IsShort part then
          match t.standing? (Path.step names part) with
          | some .directory => t.makeDirectories made (Path.step names part) r
          | some (.file _) =>
            (t, some (if made || r.all (·.isEmpty) then .alreadyExists else .notDirectory))
          | none =>
            (t.put (Path.step names part) (.directory [])).makeDirectories true
              (Path.step names part) r
        else (t, some .nameTooLong) := by
  rw [makeDirectories]
  cases he : t.entry names with
  | none => simp only [standing?, he, Option.map_none]
  | some u =>
    cases u with
    | file _ => simp only [standing?, he, Option.map_some, standing]
    | directory entries =>
      have hnames := standing?_eq_directory_iff.mpr ⟨entries, he⟩
      by_cases hskip : part = [] ∨ part = ['.']
      · simp only [Path.step, if_pos hskip, hnames, if_pos (isShort_of_skipped hskip)]
      by_cases hup : part = ['.', '.']
      · have habove := standing?_dropLast hnames
        simp only [Path.step, if_neg hskip, if_pos hup, hnames, habove, if_pos (hup ▸ isShort_dots)]
      · simp only [Path.step, if_neg hskip, if_neg hup, hnames, standing?_concat he]
        by_cases hshort : IsShort part
        · rw [if_neg (Nat.not_lt.mpr hshort), if_pos hshort]
          cases entries.lookup (String.ofList part) with
          | none => rfl
          | some v => cases v <;> rfl
        · rw [if_pos (Nat.lt_of_not_le hshort), if_neg hshort]

/-- Whatever stops the making of directories, nothing but directories was made. -/
theorem grows_makeDirectories (t : FileTree) (made : Bool) (names : List String)
    (parts : List (List Char)) : t.Grows (t.makeDirectories made names parts).1 := by
  induction parts generalizing t made names with
  | nil => exact .refl t
  | cons part r ih =>
    rw [makeDirectories_cons]
    split
    · exact .refl t
    · exact .refl t
    next hnames =>
    split
    swap
    · exact .refl t
    split
    · exact ih t made _
    · exact .refl t
    · next hnext =>
      refine Grows.trans (fun q => ?_) (ih _ true _)
      rw [standing?_put_step hnames hnext]
      by_cases hq : q = Path.step names part
      · subst hq
        exact .inr ⟨hnext, Function.update_self ..⟩
      · rw [Function.update_of_ne hq]
        exact .inl rfl

/-- The same kinds of things stand at the same places; contents of files do not count. -/
structure SameShape (t u : FileTree) : Prop where
  directories : t.SameDirectories u
  nothing : ∀ q, t.standing? q = none ↔ u.standing? q = none

theorem SameShape.refl (t : FileTree) : t.SameShape t := ⟨fun _ => Iff.rfl, fun _ => Iff.rfl⟩

theorem SameShape.symm {t u : FileTree} (h : t.SameShape u) : u.SameShape t :=
  ⟨fun q => (h.directories q).symm, fun q => (h.nothing q).symm⟩

theorem SameShape.trans {t u v : FileTree} (h : t.SameShape u) (h' : u.SameShape v) :
    t.SameShape v :=
  ⟨fun q => (h.directories q).trans (h'.directories q),
    fun q => (h.nothing q).trans (h'.nothing q)⟩

theorem SameShape.exists_file {t u : FileTree} (h : t.SameShape u) {q : List String}
    {content : List UInt8} (hq : t.standing? q = some (.file content)) :
    ∃ bytes, u.standing? q = some (.file bytes) := by
  have hnothing := mt (h.nothing q).mpr (by simp [hq])
  have hdirectory := mt (h.directories q).mpr (by simp [hq])
  cases hu : u.standing? q with
  | none => exact absurd hu hnothing
  | some s =>
    cases s with
    | file bytes => exact ⟨bytes, rfl⟩
    | directory => exact absurd hu hdirectory

/-- A directory more at one place leaves the shapes the same. -/
theorem SameShape.of_update {t u t' u' : FileTree} (h : t.SameShape u) {q : List String}
    (ht : t'.standing? = Function.update t.standing? q (some .directory))
    (hu : u'.standing? = Function.update u.standing? q (some .directory)) : t'.SameShape u' := by
  constructor <;> intro q' <;> rw [ht, hu] <;> by_cases hq : q' = q
  · subst hq
    simp
  · simp only [Function.update_of_ne hq, h.directories q']
  · subst hq
    simp
  · simp only [Function.update_of_ne hq, h.nothing q']

/-- How far directories can be made does not depend on the contents of files, nor does what stops
it. -/
theorem SameShape.makeDirectories {t u : FileTree} (h : t.SameShape u) (made : Bool)
    (names : List String) (parts : List (List Char)) :
    (t.makeDirectories made names parts).1.SameShape (u.makeDirectories made names parts).1 ∧
      (u.makeDirectories made names parts).2 = (t.makeDirectories made names parts).2 := by
  induction parts generalizing t u made names with
  | nil => exact ⟨h, rfl⟩
  | cons part r ih =>
    rw [makeDirectories_cons, makeDirectories_cons]
    cases hnames : t.standing? names with
    | none =>
      rw [(h.nothing names).mp hnames]
      exact ⟨h, rfl⟩
    | some s =>
      cases s with
      | file content =>
        obtain ⟨bytes, hnames⟩ := h.exists_file hnames
        rw [hnames]
        exact ⟨h, rfl⟩
      | directory =>
        have hnames' := (h.directories names).mp hnames
        rw [hnames']
        dsimp only
        split
        swap
        · exact ⟨h, rfl⟩
        cases hnext : t.standing? (Path.step names part) with
        | some s =>
          cases s with
          | file content =>
            obtain ⟨bytes, hnext⟩ := h.exists_file hnext
            rw [hnext]
            exact ⟨h, rfl⟩
          | directory =>
            rw [(h.directories _).mp hnext]
            exact ih h made _
        | none =>
          have hnext' := (h.nothing _).mp hnext
          rw [hnext']
          exact ih (h.of_update (standing?_put_step hnames hnext)
            (standing?_put_step hnames' hnext')) true _

end FileTree

namespace FileSystem

open FileTree

/-! ## Writing files -/

section
variable {fs gs : FileSystem} {p : Path} {names : List String} {content : List UInt8}

/-- Where a file is put at a place where it can be opened, only that place changes. -/
theorem standing?_put_file (h : fs.placeForFile p = .ok names) (content : List UInt8) :
    (fs.tree.put names (.file content)).standing? =
      Function.update fs.tree.standing? names (some (.file content)) := by
  obtain ⟨before, last, parent, -, -, hlead, rfl, hplace⟩ := placeForFile_eq_ok_iff.mp h
  exact standing?_put hlead.2 hplace (isLeaf_file content)

theorem write_eq_ok_iff : fs.write p content = .ok gs ↔ ∃ names, fs.placeForFile p = .ok names ∧
    gs = { fs with tree := fs.tree.put names (.file content) } := by
  simp only [write, Except.bind_eq_ok_iff, Except.pure_eq_ok_iff, eq_comm (a := gs)]

theorem exists_of_append (h : fs.append p content = .ok gs) :
    ∃ names bytes, fs.placeForFile p = .ok names ∧
      gs = { fs with tree := fs.tree.put names (.file bytes) } := by
  obtain ⟨names, hplace, h⟩ := Except.bind_eq_ok_iff.mp h
  exact ⟨names, _, hplace, (Except.ok.inj h).symm⟩

/-- A file in the place of another one, or of nothing, is no change of directories. -/
theorem sameDirectories_put_file (h : fs.placeForFile p = .ok names) (content : List UInt8) :
    fs.SameDirectories { fs with tree := fs.tree.put names (.file content) } := by
  refine ⟨rfl, fun q => ?_⟩
  rw [standing?_put_file h content]
  by_cases hq : q = names
  · subst hq
    simp [standing?_ne_of_placeForFile h]
  · rw [Function.update_of_ne hq]

/-- What was written is read. -/
theorem read_of_write (h : fs.write p content = .ok gs) : gs.read p = .ok content := by
  obtain ⟨names, hplace, rfl⟩ := write_eq_ok_iff.mp h
  have hsame := sameDirectories_put_file hplace content
  have hstanding := standing?_put_file hplace content
  obtain ⟨before, last, parent, hp, hlast, hlead, rfl, -⟩ := placeForFile_eq_ok_iff.mp hplace
  obtain ⟨hfollow, hparent⟩ := hsame.tree.leadsTo_iff.mp hlead
  have hthere : (fs.tree.put (parent ++ [String.ofList last]) (.file content)).standing?
      (parent ++ [String.ofList last]) = some (.file content) := by
    rw [hstanding, Function.update_self]
  refine read_eq_ok_iff.mpr ⟨_, _, hp, follow_append hfollow ?_, hthere⟩
  rw [follow_cons_eq_ok_iff, hlast.step]
  refine ⟨hparent, hlast.2.2.2, ?_, rfl⟩
  rw [hthere]
  exact Option.some_ne_none _

end

/-! ## Making files -/

/-- The same kinds of things stand at the same places, and work is done in the same one. -/
structure SameShape (fs gs : FileSystem) : Prop where
  current : gs.current = fs.current
  tree : fs.tree.SameShape gs.tree

theorem SameShape.symm {fs gs : FileSystem} (h : fs.SameShape gs) : gs.SameShape fs :=
  ⟨h.current.symm, h.tree.symm⟩

theorem SameShape.trans {fs gs hs : FileSystem} (h : fs.SameShape gs) (h' : gs.SameShape hs) :
    fs.SameShape hs :=
  ⟨h'.current.trans h.current, h.tree.trans h'.tree⟩

@[simp] theorem current_createDirectory (fs : FileSystem) (p : Path) :
    (fs.createDirectory p).1.current = fs.current := by
  unfold createDirectory
  split
  · rfl
  split <;> rfl

/-- Making a directory leaves everything else as it is, also where it fails half way. -/
theorem grows_createDirectory (fs : FileSystem) (p : Path) :
    fs.tree.Grows (fs.createDirectory p).1.tree := by
  unfold createDirectory
  split
  · exact .refl _
  split
  · exact .refl _
  · exact grows_makeDirectories _ _ _ _

theorem SameShape.createDirectory {fs gs : FileSystem} (h : fs.SameShape gs) (p : Path) :
    (fs.createDirectory p).1.SameShape (gs.createDirectory p).1 ∧
      (gs.createDirectory p).2 = (fs.createDirectory p).2 := by
  unfold FileSystem.createDirectory
  split
  · exact ⟨h, rfl⟩
  split
  · exact ⟨h, rfl⟩
  · next parts _ =>
    rw [start_congr h.current]
    obtain ⟨htree, herror⟩ := h.tree.makeDirectories false (fs.start p) parts
    exact ⟨⟨h.current, htree⟩, herror⟩

/-- A file can be made at a path: the directory it lies in stands or can be made, and the file can be
opened for writing there. -/
def CanCreate (fs : FileSystem) (p : Path) : Prop :=
  (fs.createDirectory (p.parent?.getD ⟨""⟩)).2 = none ∧
    ∃ names, (fs.createDirectory (p.parent?.getD ⟨""⟩)).1.placeForFile p = .ok names

instance (fs : FileSystem) (p : Path) : Decidable (fs.CanCreate p) :=
  have : Decidable (∃ names,
      (fs.createDirectory (p.parent?.getD ⟨""⟩)).1.placeForFile p = .ok names) :=
    match (fs.createDirectory (p.parent?.getD ⟨""⟩)).1.placeForFile p with
    | .ok names => .isTrue ⟨names, rfl⟩
    | .error _ => .isFalse fun h => nomatch h
  inferInstanceAs (Decidable (_ ∧ _))

theorem SameShape.canCreate_iff {fs gs : FileSystem} (h : fs.SameShape gs) {p : Path} :
    fs.CanCreate p ↔ gs.CanCreate p := by
  obtain ⟨hshape, herror⟩ := h.createDirectory (p.parent?.getD ⟨""⟩)
  have hsame : SameDirectories _ _ := ⟨hshape.current, hshape.tree.directories⟩
  unfold CanCreate
  rw [herror]
  simp only [hsame.placeForFile_iff]

end FileSystem

end ApiDoc
