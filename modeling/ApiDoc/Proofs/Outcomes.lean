import ApiDoc.Proofs.Changes
import ApiDoc.Proofs.Runs
import ApiDoc.Proofs.Settings

/-!
# Outcomes of extractions

A run of the command `extract` is stopped by a configuration that cannot be loaded or is faulty, by a
root that is no directory, by a class that is not found, or by an output file that cannot be made
(`IsStopped`).  It ends with 2 then and leaves no output; otherwise it ends with 0 or 1 and its text
is written to just one place (`run_extract`).

Between its first event and its last, a log changes no file but its own (`LogsTo`).  Once the log
file is open, it stays a file, so that what can be made does not change on the way (`Log.IsOpen`).
-/

namespace ApiDoc.CommandLine

open FileTree FileSystem

/-! ## Logging -/

/-- Of the files, only the one at the place of the log may differ. -/
structure LogsTo (place : Option (List String)) (fs gs : FileSystem) : Prop where
  directories : fs.SameDirectories gs
  elsewhere : ∀ q, place ≠ some q → gs.tree.standing? q = fs.tree.standing? q

theorem LogsTo.refl (place : Option (List String)) (fs : FileSystem) : LogsTo place fs fs :=
  ⟨⟨rfl, fun _ => Iff.rfl⟩, fun _ _ => rfl⟩

theorem LogsTo.trans {place : Option (List String)} {fs gs hs : FileSystem} (h : LogsTo place fs gs)
    (h' : LogsTo place gs hs) : LogsTo place fs hs :=
  ⟨h.directories.trans h'.directories,
    fun q hq => (h'.elsewhere q hq).trans (h.elsewhere q hq)⟩

theorem LogsTo.content?_eq {place : Option (List String)} {fs gs : FileSystem}
    (h : LogsTo place fs gs) {q : List String} (hq : place ≠ some q) :
    gs.tree.content? q = fs.tree.content? q := by
  rw [content?, content?, h.elsewhere q hq]

theorem logsTo_of_append {fs gs : FileSystem} {path : Path} {content : List UInt8}
    (h : fs.append path content = .ok gs) : LogsTo (path.place? fs.current) fs gs := by
  obtain ⟨names, bytes, hplace, rfl⟩ := exists_of_append h
  refine ⟨sameDirectories_put_file hplace bytes, fun q hq => ?_⟩
  rw [place?_of_placeForFile hplace] at hq
  rw [standing?_put_file hplace, Function.update_of_ne]
  rintro rfl
  exact hq rfl

namespace Log

/-- The place of the log file, seen from a working directory. -/
def place? (l : Log) (current : List String) : Option (List String) :=
  l.file.bind (Path.place? current)

/-- Events are written to the end of the log file, or no file changes. -/
theorem files_write (l : Log) (time : String) (before : Logged) (events : List LogEvent) :
    (l.write time before events).files = before.files ∨ ∃ path, l.file = some path ∧
      before.files.append path (l.lines time events).toUTF8.toList =
        .ok (l.write time before events).files := by
  unfold write
  cases l.file with
  | none => exact .inl rfl
  | some path =>
    cases h : before.files.append path (l.lines time events).toUTF8.toList with
    | error e =>
      left
      simp only [h]
      rfl
    | ok u =>
      right
      refine ⟨path, rfl, ?_⟩
      simp only [h]
      rfl

theorem logsTo_write (l : Log) (time : String) (before : Logged) (events : List LogEvent) :
    LogsTo (l.place? before.files.current) before.files (l.write time before events).files := by
  rcases files_write l time before events with hsame | ⟨path, hpath, happend⟩
  · rw [hsame]
    exact .refl _ _
  · rw [place?, hpath]
    exact logsTo_of_append happend

/-- The log file, if there is one, stands where its path leads. -/
def IsOpen (l : Log) (fs : FileSystem) : Prop :=
  ∀ path, l.file = some path → ∃ names bytes, fs.placeForFile path = .ok names ∧
    fs.tree.standing? names = some (.file bytes)

theorem isOpen_of_append {l : Log} {fs gs : FileSystem} {path : Path} {content : List UInt8}
    (hpath : l.file = some path) (h : fs.append path content = .ok gs) : l.IsOpen gs := by
  intro path' hpath'
  obtain rfl : path = path' := Option.some.inj (hpath.symm.trans hpath')
  obtain ⟨names, bytes, hplace, rfl⟩ := exists_of_append h
  refine ⟨names, bytes, (sameDirectories_put_file hplace bytes).placeForFile_iff.mp hplace, ?_⟩
  rw [standing?_put_file hplace, Function.update_self]

/-- Lines at the end of a log file that is open are no change of what stands where. -/
theorem IsOpen.write {l : Log} {before : Logged} (h : l.IsOpen before.files) (time : String)
    (events : List LogEvent) :
    l.IsOpen (l.write time before events).files ∧
      before.files.SameShape (l.write time before events).files := by
  rcases files_write l time before events with hsame | ⟨path, hpath, happend⟩
  · rw [hsame]
    exact ⟨h, rfl, .refl _⟩
  · refine ⟨isOpen_of_append hpath happend, ?_⟩
    obtain ⟨names, bytes, hplace, hstands⟩ := h path hpath
    obtain ⟨names', bytes', hplace', hfiles⟩ := exists_of_append happend
    obtain rfl : names = names' := Except.ok.inj (hplace.symm.trans hplace')
    rw [hfiles]
    refine ⟨rfl, (sameDirectories_put_file hplace bytes').tree, fun q => ?_⟩
    rw [standing?_put_file hplace]
    by_cases hq : q = names
    · subst hq
      simp [hstands]
    · rw [Function.update_of_ne hq]

end Log

/-- Where the log file of a run is, if it has one. -/
def logPlace? (s : Surroundings) (c : Config) : Option (List String) :=
  c.logging.file.bind (Path.place? s.files.current)

/-- When logging starts, the log file is open, or there is none. -/
theorem startLog_spec (s : Surroundings) (c : Config) :
    LogsTo (logPlace? s c) s.files (startLog s c.logging).2.files ∧
      (startLog s c.logging).1.IsOpen (startLog s c.logging).2.files ∧
      ((startLog s c.logging).1.file = none ∨ (startLog s c.logging).1.file = c.logging.file) := by
  have hnone : ∀ (l : Log) (fs : FileSystem), l.file = none → l.IsOpen fs := by
    intro l fs hl path hpath
    rw [hl] at hpath
    cases hpath
  unfold startLog logPlace?
  cases c.logging.file with
  | none => exact ⟨.refl _ _, hnone _ _ rfl, .inl rfl⟩
  | some path =>
    rw [Option.bind_some]
    cases h : s.files.append path [] with
    | error e =>
      simp only [h]
      exact ⟨.refl _ _, hnone _ _ rfl, .inl trivial⟩
    | ok u =>
      simp only [h]
      exact ⟨logsTo_of_append h, Log.isOpen_of_append rfl h, .inr trivial⟩

/-! ## Written files -/

section
variable {fs : FileSystem} {path : Path}

theorem writeOutput_of_canCreate (h : fs.CanCreate path) (text : String) :
    ∃ gs, writeOutput fs path text = (gs, none) ∧ gs.read path = .ok text.toUTF8.toList ∧
      ∀ q, path.place? fs.current ≠ some q → gs.tree.content? q = fs.tree.content? q := by
  obtain ⟨hmade, names, hplace⟩ := h
  have hgrows := grows_createDirectory fs (path.parent?.getD ⟨""⟩)
  have hcurrent := current_createDirectory fs (path.parent?.getD ⟨""⟩)
  rcases hmake : fs.createDirectory (path.parent?.getD ⟨""⟩) with ⟨made, error⟩
  rw [hmake] at hmade hplace hgrows hcurrent
  obtain rfl : error = none := hmade
  have hwrite : made.write path text.toUTF8.toList = .ok _ :=
    write_eq_ok_iff.mpr ⟨names, hplace, rfl⟩
  refine ⟨_, by simp only [writeOutput, hmake, hwrite], read_of_write hwrite, fun q hq => ?_⟩
  rw [← hcurrent, place?_of_placeForFile hplace] at hq
  have hne : q ≠ names := by
    rintro rfl
    exact hq rfl
  rw [content?, standing?_put_file hplace, Function.update_of_ne hne]
  exact hgrows.content?_eq q

/-- Where the file cannot be made, directories may have been made for it, but no file. -/
theorem writeOutput_of_not_canCreate (h : ¬fs.CanCreate path) (text : String) :
    ∃ gs e, writeOutput fs path text = (gs, some e) ∧
      ∀ q, gs.tree.content? q = fs.tree.content? q := by
  have hgrows := grows_createDirectory fs (path.parent?.getD ⟨""⟩)
  unfold CanCreate at h
  rcases hmake : fs.createDirectory (path.parent?.getD ⟨""⟩) with ⟨made, _ | e⟩ <;>
    rw [hmake] at h hgrows
  · cases hwrite : made.write path text.toUTF8.toList with
    | error e =>
      exact ⟨made, _, by simp only [writeOutput, hmake, hwrite]; rfl, hgrows.content?_eq⟩
    | ok written =>
      obtain ⟨names, hplace, -⟩ := write_eq_ok_iff.mp hwrite
      exact absurd ⟨rfl, names, hplace⟩ h
  · exact ⟨made, _, by simp only [writeOutput, hmake]; rfl, hgrows.content?_eq⟩

end

/-! ## Selected classes -/

/-- What is written of a registry: all of it, or the one class that was asked for. -/
def IsSelection (r : Registry) (name : Option String) (selected : Registry) : Prop :=
  match name with
  | none => selected = r
  | some n => ∃ fullName m, r.resolve? n = some fullName ∧ r.get? fullName = some m ∧
      selected = .ofList [m]

/-- A name that is resolved is one of the registry. -/
theorem get?_of_resolve? {r : Registry} {n fullName : String} (h : r.resolve? n = some fullName) :
    ∃ m, r.get? fullName = some m := by
  have hcontains : r.contains fullName = true := by
    unfold Registry.resolve? at h
    split at h
    · split at h
      · next hn => rwa [← Option.some.inj h]
      · cases h
    · split at h
      · split at h
        · next hm => rwa [← Option.some.inj h]
        · cases h
      · cases h
  exact Option.isSome_iff_exists.mp hcontains

theorem isSelection_of_selectClass {r selected : Registry} {name : Option String}
    (h : selectClass r name = .ok selected) : IsSelection r name selected := by
  unfold selectClass at h
  cases name with
  | none => exact (Except.ok.inj h).symm
  | some n =>
    cases hr : r.resolve? n with
    | none => simp only [hr] at h; cases h
    | some fullName =>
      simp only [hr] at h
      obtain ⟨m, hm⟩ := get?_of_resolve? hr
      rw [hm] at h
      exact ⟨fullName, m, hr, hm, (Except.ok.inj h).symm⟩

theorem exists_of_selectClass_error {r : Registry} {name : Option String} {e : String}
    (h : selectClass r name = .error e) : ∃ n, name = some n ∧ r.resolve? n = none := by
  unfold selectClass at h
  cases name with
  | none => cases h
  | some n =>
    refine ⟨n, rfl, ?_⟩
    cases hr : r.resolve? n with
    | none => rfl
    | some fullName => simp only [hr] at h; cases h

/-! ## How runs end -/

/-- The files when the pages are read: the log was started, and doubts about the settings are in it. -/
def filesAtReading (s : Surroundings) (c : Config) : FileSystem :=
  let (log, started) := startLog s c.logging
  (log.write s.time started (c.doubts.map doubtEvent)).files

/-- What stops a run.  The output file has to be made when the log has been opened: a log file in the
place of its directory is in the way. -/
inductive IsStopped (s : Surroundings) (a : ExtractArguments) : Prop
  | load {path : Path} {e : ConfigError} (hpath : a.config = some path)
    (he : Config.load s.files path = .error e)
  | faults {c : Config} (hc : settings s a = .ok c) (hfaults : c.faults ≠ [])
  | root {c : Config} {root : Path} (hc : settings s a = .ok c) (hroot : root ∈ c.roots)
    (hdirectory : s.files.hasDirectory root = false)
  | className {c : Config} {x : Extraction} {name : String} (hc : settings s a = .ok c)
    (hx : Extraction.run (filesAtReading s c) c = .ok x) (hname : a.className = some name)
    (hresolve : x.registry.resolve? name = none)
  | output {c : Config} {path : Path} (hc : settings s a = .ok c) (hpath : c.output.path = some path)
    (hcreate : ¬(filesAtReading s c).CanCreate path)

/-- A run leaves no output: it ends with 2, with nothing on standard output, and no file is made or
changed but that of the log. -/
structure LeavesNothing (logPlace : Option (List String)) (fs : FileSystem) (o : Outcome) : Prop where
  code : o.code = 2
  stdout : o.stdout = ""
  files : ∀ q, logPlace ≠ some q → o.files.tree.content? q = fs.tree.content? q

/-- A text is on standard output and in no file, or in the file at a path and not on standard output;
no other file is made or changed but that of the log. -/
def WritesTo (logPlace : Option (List String)) (fs : FileSystem) (text : String) (path : Option Path)
    (o : Outcome) : Prop :=
  match path with
  | none => o.stdout = text ∧
      ∀ q, logPlace ≠ some q → o.files.tree.content? q = fs.tree.content? q
  | some path => o.stdout = "" ∧ o.files.read path = .ok text.toUTF8.toList ∧
      ∀ q, logPlace ≠ some q → path.place? fs.current ≠ some q →
        o.files.tree.content? q = fs.tree.content? q

/-! ## Stages of a run -/

section
variable {s : Surroundings} {a : ExtractArguments} {c : Config} {x : Extraction}

/-- Whatever is logged in a run, only its log file changes. -/
theorem logsTo_startLog_write {before : Logged} (h : LogsTo (logPlace? s c) s.files before.files)
    (events : List LogEvent) : LogsTo (logPlace? s c) s.files
      ((startLog s c.logging).1.write s.time before events).files := by
  refine h.trans ?_
  have hwrite := (startLog s c.logging).1.logsTo_write s.time before events
  rw [h.directories.current, Log.place?] at hwrite
  rcases (startLog_spec s c).2.2 with hnone | hfile
  · rw [hnone] at hwrite
    exact ⟨hwrite.directories, fun q _ => hwrite.elsewhere q (by simp)⟩
  · rwa [hfile] at hwrite

theorem logsTo_filesAtReading (s : Surroundings) (c : Config) :
    LogsTo (logPlace? s c) s.files (filesAtReading s c) :=
  logsTo_startLog_write (startLog_spec s c).1 _

theorem exists_of_settings (h : settings s a = .ok c) :
    ∃ base, baseConfig s.files a = .ok base ∧ applyArguments base a = c := by
  unfold settings at h
  cases hbase : baseConfig s.files a with
  | error e => rw [hbase] at h; cases h
  | ok base =>
    rw [hbase] at h
    exact ⟨base, rfl, Except.ok.inj h⟩

/-- Settings that cannot be loaded. -/
theorem runExtract_of_load {e : String} (h : settings s a = .error e) :
    IsStopped s a ∧ (runExtract s a).code = 2 ∧ (runExtract s a).stdout = "" ∧
      (runExtract s a).files = s.files := by
  unfold settings at h
  cases hbase : baseConfig s.files a with
  | ok base => rw [hbase] at h; cases h
  | error e =>
    refine ⟨?_, by simp only [runExtract, hbase], by simp only [runExtract, hbase],
      by simp only [runExtract, hbase]⟩
    unfold baseConfig at hbase
    cases hconfig : a.config with
    | none => rw [hconfig] at hbase; cases hbase
    | some path =>
      rw [hconfig] at hbase
      cases hload : Config.load s.files path with
      | error e => exact .load hconfig hload
      | ok c => simp only [hload] at hbase; cases hbase

/-- Settings that are faulty. -/
theorem runExtract_of_faults (hc : settings s a = .ok c) (hfaults : c.faults ≠ []) :
    LeavesNothing (logPlace? s c) s.files (runExtract s a) := by
  obtain ⟨base, hbase, rfl⟩ := exists_of_settings hc
  have hlogs := logsTo_filesAtReading s (applyArguments base a)
  unfold runExtract
  simp only [hbase, List.isEmpty_eq_false_iff.mpr hfaults, Bool.not_false, if_true]
  exact ⟨rfl, rfl, fun q hq => hlogs.content?_eq hq⟩

/-- A root that is no directory, or ids that clash. -/
theorem runExtract_of_fatal {e : FatalError} (hc : settings s a = .ok c) (hfaults : c.faults = [])
    (hx : Extraction.run (filesAtReading s c) c = .error e) :
    LeavesNothing (logPlace? s c) s.files (runExtract s a) := by
  obtain ⟨base, hbase, rfl⟩ := exists_of_settings hc
  have hlogs := logsTo_filesAtReading s (applyArguments base a)
  unfold filesAtReading at hx hlogs
  unfold runExtract
  simp only [hbase, hfaults, List.isEmpty_nil, Bool.not_true, Bool.false_eq_true, if_false]
  simp only at hx
  rw [hx]
  exact ⟨rfl, rfl, fun q hq => (logsTo_startLog_write hlogs _).content?_eq hq⟩

/-- The pages are read.  What stands where is as it was when reading started. -/
theorem runExtract_of_run (hc : settings s a = .ok c) (hfaults : c.faults = [])
    (hx : Extraction.run (filesAtReading s c) c = .ok x) :
    ∃ logged, runExtract s a = finishExtract c a x logged ∧
      LogsTo (logPlace? s c) s.files logged.files ∧ (filesAtReading s c).SameShape logged.files := by
  obtain ⟨base, hbase, rfl⟩ := exists_of_settings hc
  have hlogs := logsTo_filesAtReading s (applyArguments base a)
  have hopen := ((startLog_spec s (applyArguments base a)).2.1.write s.time
    ((applyArguments base a).doubts.map doubtEvent)).1
  -- the log file is open from the start on, so both batches of events keep what stands where
  unfold filesAtReading at hx hlogs ⊢
  unfold runExtract
  simp only [hbase, hfaults, List.isEmpty_nil, Bool.not_true, Bool.false_eq_true, if_false]
  simp only at hx
  rw [hx]
  refine ⟨_, rfl, ?_, ?_⟩
  · exact logsTo_startLog_write (logsTo_startLog_write hlogs _) _
  · have hcollected := hopen.write s.time
      (Extraction.collectEvents (filesAtReading s (applyArguments base a)) (applyArguments base a)
        (applyArguments base a).roots)
    have hread := hcollected.1.write s.time (x.events ++ [x.endEvent])
    exact hcollected.2.trans hread.2

/-- The class that is asked for is not found. -/
theorem finishExtract_of_unresolved {logged : Logged} {e : String} {place : Option (List String)}
    {fs : FileSystem} (hlogs : LogsTo place fs logged.files)
    (h : selectClass x.registry a.className = .error e) :
    LeavesNothing place fs (finishExtract c a x logged) := by
  unfold finishExtract
  rw [h]
  exact ⟨rfl, rfl, fun q hq => hlogs.content?_eq hq⟩

/-- The output file cannot be made. -/
theorem finishExtract_of_not_canCreate {logged : Logged} {r : Registry} {path : Path}
    {place : Option (List String)} {fs : FileSystem} (hlogs : LogsTo place fs logged.files)
    (hr : selectClass x.registry a.className = .ok r) (hpath : c.output.path = some path)
    (hcreate : ¬logged.files.CanCreate path) :
    LeavesNothing place fs (finishExtract c a x logged) := by
  obtain ⟨v, e, hwrite, hcontent⟩ := writeOutput_of_not_canCreate hcreate (c.output.format.print r)
  unfold finishExtract
  simp only [hr, hpath, hwrite]
  exact ⟨rfl, rfl, fun q hq => (hcontent q).trans (hlogs.content?_eq hq)⟩

/-- The text is written. -/
theorem finishExtract_of_canCreate {logged : Logged} {r : Registry} {place : Option (List String)}
    {fs : FileSystem} (hlogs : LogsTo place fs logged.files)
    (hr : selectClass x.registry a.className = .ok r)
    (hcreate : ∀ path, c.output.path = some path → logged.files.CanCreate path) :
    (finishExtract c a x logged).code = (if x.report.hasErrors then 1 else 0) ∧
      WritesTo place fs (c.output.format.print r) c.output.path (finishExtract c a x logged) := by
  unfold finishExtract
  simp only [hr]
  cases hpath : c.output.path with
  | none => exact ⟨rfl, rfl, fun q hq => hlogs.content?_eq hq⟩
  | some path =>
    obtain ⟨v, hwrite, hread, hcontent⟩ :=
      writeOutput_of_canCreate (hcreate path hpath) (c.output.format.print r)
    simp only [hwrite]
    rw [hlogs.directories.current] at hcontent
    exact ⟨trivial, rfl, hread, fun q hq hq' => (hcontent q hq').trans (hlogs.content?_eq hq)⟩

/-! ## All runs -/

/-- No two identities of the registry of a run have one id. -/
def HasDistinctIds (s : Surroundings) (c : Config) : Prop :=
  ∀ documents, Extraction.collect (filesAtReading s c) c = .ok documents →
    DistinctIds (Extraction.ofDocuments (filesAtReading s c) documents).registry.identities

theorem run_filesAtReading_iff (hids : HasDistinctIds s c) :
    (∃ x, Extraction.run (filesAtReading s c) c = .ok x) ↔
      ∀ root ∈ c.roots, s.files.hasDirectory root = true := by
  have hdirectories := (logsTo_filesAtReading s c).directories
  unfold HasDistinctIds at hids
  rw [Extraction.exists_run_iff, and_iff_left hids]
  simp only [hdirectories.hasDirectory]

/-- Once nothing is in the way of a run, nothing stops it. -/
theorem not_isStopped {r : Registry} (hc : settings s a = .ok c) (hfaults : c.faults = [])
    (hx : Extraction.run (filesAtReading s c) c = .ok x) (hids : HasDistinctIds s c)
    (hr : selectClass x.registry a.className = .ok r)
    (hcreate : ∀ path, c.output.path = some path → (filesAtReading s c).CanCreate path) :
    ¬IsStopped s a := by
  have hunique : ∀ {c' : Config}, settings s a = .ok c' → c' = c := by
    intro c' hc'
    exact Except.ok.inj (hc'.symm.trans hc)
  intro h
  cases h with
  | load hpath he =>
    obtain ⟨base, hbase, -⟩ := exists_of_settings hc
    rw [baseConfig, hpath] at hbase
    rw [Except.mapError_eq_ok_iff.mp hbase] at he
    cases he
  | faults hc' hfaults' =>
    obtain rfl := hunique hc'
    exact hfaults' hfaults
  | root hc' hroot hdirectory =>
    obtain rfl := hunique hc'
    rw [(run_filesAtReading_iff hids).mp ⟨x, hx⟩ _ hroot] at hdirectory
    cases hdirectory
  | className hc' hx' hname hresolve =>
    obtain rfl := hunique hc'
    obtain rfl := Except.ok.inj (hx'.symm.trans hx)
    simp only [selectClass, hname, hresolve] at hr
    cases hr
  | output hc' hpath hcreate' =>
    obtain rfl := hunique hc'
    exact hcreate' (hcreate _ hpath)

/-- A run with settings is stopped and leaves no output, or its text is written. -/
theorem runExtract_of_settings (hc : settings s a = .ok c) (hids : HasDistinctIds s c) :
    (IsStopped s a ∧ LeavesNothing (logPlace? s c) s.files (runExtract s a)) ∨
    (¬IsStopped s a ∧ ∃ x r, Extraction.run (filesAtReading s c) c = .ok x ∧
      IsSelection x.registry a.className r ∧
      (runExtract s a).code = (if x.report.hasErrors then 1 else 0) ∧
      WritesTo (logPlace? s c) s.files (c.output.format.print r) c.output.path (runExtract s a)) := by
  by_cases hfaults : c.faults = []
  · cases hx : Extraction.run (filesAtReading s c) c with
    | error e =>
      have hroots : ¬∀ root ∈ c.roots, s.files.hasDirectory root = true := by
        rw [← run_filesAtReading_iff hids, hx]
        rintro ⟨x, hx⟩
        cases hx
      simp only [not_forall, Bool.not_eq_true] at hroots
      obtain ⟨root, hroot, hdirectory⟩ := hroots
      exact .inl ⟨.root hc hroot hdirectory, runExtract_of_fatal hc hfaults hx⟩
    | ok x =>
      obtain ⟨logged, hrun, hlogs, hshape⟩ := runExtract_of_run hc hfaults hx
      rw [hrun]
      cases hr : selectClass x.registry a.className with
      | error e =>
        obtain ⟨name, hname, hresolve⟩ := exists_of_selectClass_error hr
        exact .inl ⟨.className hc hx hname hresolve, finishExtract_of_unresolved hlogs hr⟩
      | ok r =>
        by_cases hcreate : ∀ path, c.output.path = some path → (filesAtReading s c).CanCreate path
        · have hwritten := finishExtract_of_canCreate hlogs hr fun path hpath =>
            hshape.canCreate_iff.mp (hcreate path hpath)
          exact .inr ⟨not_isStopped hc hfaults hx hids hr hcreate, x, r, rfl,
            isSelection_of_selectClass hr, hwritten⟩
        · simp only [not_forall] at hcreate
          obtain ⟨path, hpath, hcreate⟩ := hcreate
          exact .inl ⟨.output hc hpath hcreate,
            finishExtract_of_not_canCreate hlogs hr hpath (mt hshape.canCreate_iff.mpr hcreate)⟩
  · exact .inl ⟨.faults hc hfaults, runExtract_of_faults hc hfaults⟩

/-- How a run of `extract` ends, if no ids clash and the log is not written where the output is.  It
ends with 2 exactly where it is stopped; then nothing is on standard output, and neither the file at
the output path nor any other is made or changed but that of the log.  Otherwise it ends with 1
exactly where the report has errors, and with 0 where it has none; the text of the whole registry, or
of the one class that was asked for, is written to just one of standard output and the output path.
Its settings are those of the arguments, else of the configuration file, else the defaults. -/
theorem run_extract {args : List String} (ha : readArguments args = .ok (.extract a))
    (hids : ∀ c, settings s a = .ok c → HasDistinctIds s c)
    (hlog : ∀ c path q, settings s a = .ok c → c.output.path = some path →
      path.place? s.files.current = some q → logPlace? s c ≠ some q) :
    (∀ c, settings s a = .ok c → SettingsChosen s a c) ∧
    ((run s args).code = 2 ↔ IsStopped s a) ∧
    (IsStopped s a → (run s args).stdout = "" ∧
      (∀ c path q, settings s a = .ok c → c.output.path = some path →
        path.place? s.files.current = some q →
          (run s args).files.tree.content? q = s.files.tree.content? q) ∧
      ∀ q, (∀ c, settings s a = .ok c → logPlace? s c ≠ some q) →
        (run s args).files.tree.content? q = s.files.tree.content? q) ∧
    (¬IsStopped s a → ∃ c x r, settings s a = .ok c ∧
      Extraction.run (filesAtReading s c) c = .ok x ∧ IsSelection x.registry a.className r ∧
      (run s args).code = (if x.report.hasErrors then 1 else 0) ∧
      WritesTo (logPlace? s c) s.files (c.output.format.print r) c.output.path (run s args)) := by
  have hrun : run s args = runExtract s a := by rw [run, ha]; rfl
  rw [hrun]
  refine ⟨fun c hc => chosen_of_settings hc, ?_⟩
  cases hc : settings s a with
  | error e =>
    obtain ⟨hstopped, hcode, hstdout, hfiles⟩ := runExtract_of_load hc
    refine ⟨⟨fun _ => hstopped, fun _ => hcode⟩, fun _ => ⟨hstdout, ?_, fun q _ => by rw [hfiles]⟩,
      fun hnot => absurd hstopped hnot⟩
    intro c path q hc'
    cases hc'
  | ok c =>
    rcases runExtract_of_settings hc (hids c hc) with ⟨hstopped, hleaves⟩ |
      ⟨hnot, x, r, hx, hr, hcode, hwrites⟩
    · refine ⟨⟨fun _ => hstopped, fun _ => hleaves.code⟩, fun _ => ⟨hleaves.stdout, ?_, ?_⟩,
        fun hnot => absurd hstopped hnot⟩
      · intro c' path q hc' hpath hq
        obtain rfl := Except.ok.inj hc'
        exact hleaves.files q (hlog c path q hc hpath hq)
      · exact fun q hq => hleaves.files q (hq c rfl)
    · refine ⟨⟨fun h => ?_, fun h => absurd h hnot⟩, fun h => absurd h hnot,
        fun _ => ⟨c, x, r, rfl, hx, hr, hcode, hwrites⟩⟩
      rw [hcode] at h
      split at h <;> cases h

end

/-- An output file that was written before, and a configuration in another directory that names it and
a log file. -/
def writtenBefore : FileTree :=
  .directory [("home", .directory [("jdoc.toml", text configText),
      ("docs", .directory [("p", .directory [("C.html", text classPage)])])]),
    ("work", .directory []), ("out", .directory [("model.txt", text "old")])]
where
  text (s : String) : FileTree := .file s.toUTF8.toList
  configText := "doc_roots = ['docs']\n[output]\nformat = 'json'\npath = '/out/model.txt'\n" ++
    "[logging]\nfile = 'run.log'\n"
  classPage := "<h2><b>p</b>C</h2><hr><dl>class C</dl>"

/-- A class that is not there stops the run, and the file stays as it was; for the class that is
there the file is written anew, in the format of the arguments.  The configuration is found above the
working directory, and the output file at an absolute path. -/
theorem run_extract_of_writtenBefore :
    let s : Surroundings := ⟨⟨writtenBefore, ["work"]⟩, none, "now"⟩
    let o (name : String) : Outcome := run s
      ["extract", "--config", "../home/jdoc.toml", "--format", "summary", "--class", name]
    ((o "D").code = 2 ∧ (o "D").stdout = "" ∧
      (o "D").files.tree.content? ["out", "model.txt"] = some "old".toUTF8.toList) ∧
    (o "C").code = 0 ∧ (o "C").stdout = "" ∧
      (o "C").files.read ⟨"/out/model.txt"⟩ = .ok "public class p.C \x7b\n\x7d\n".toUTF8.toList := by
  intro s o
  let a (name : String) : ExtractArguments :=
    ⟨[], some ⟨"../home/jdoc.toml"⟩, some .summary, none, none, some name, false⟩
  let c : Config := { Config.default with
    roots := [⟨"../home/docs"⟩]
    logging := { LogSettings.default with file := some ⟨"run.log"⟩ }
    output := ⟨.summary, some ⟨"/out/model.txt"⟩⟩ }
  let documents : List DocumentSet := [⟨⟨"../home/docs"⟩, [⟨"../home/docs/p/C.html"⟩], none⟩]
  let x : Extraction := Extraction.ofDocuments (filesAtReading s c) documents
  have hargs : ∀ name ∈ ["C", "D"], readArguments
      ["extract", "--config", "../home/jdoc.toml", "--format", "summary", "--class", name] =
        .ok (.extract (a name)) := by decide +kernel
  have hc : ∀ name ∈ ["C", "D"], settings s (a name) = .ok c := by decide +kernel
  have hd : Extraction.collect (filesAtReading s c) c = .ok documents := by decide +kernel
  obtain ⟨hidentities, hreport, hnone, hsome, htext⟩ :
      x.registry.identities = ["p.C"] ∧ x.report.hasErrors = false ∧
        x.registry.resolve? "D" = none ∧ x.registry.resolve? "C" = some "p.C" ∧
        (x.registry.get? "p.C").map (fun m => OutputFormat.summary.print (.ofList [m])) =
          some "public class p.C \x7b\n\x7d\n" := by
    decide +kernel
  have hids : HasDistinctIds s c := by
    intro found hf
    obtain rfl : documents = found := Except.ok.inj (hd.symm.trans hf)
    rw [show (Extraction.ofDocuments (filesAtReading s c) documents).registry.identities = ["p.C"] from
      hidentities]
    simp [DistinctIds]
  have hx : Extraction.run (filesAtReading s c) c = .ok x :=
    Extraction.run_eq_ok_of_distinctIds hd (hids _ hd)
  have hlog : logPlace? s c ≠ some ["out", "model.txt"] := by decide +kernel
  have hplace : Path.place? s.files.current ⟨"/out/model.txt"⟩ = some ["out", "model.txt"] := by
    decide +kernel
  have hunique : ∀ name ∈ ["C", "D"], ∀ c', settings s (a name) = .ok c' → c' = c :=
    fun name hname c' hc' => Except.ok.inj (hc'.symm.trans (hc name hname))
  have hends := fun name (hname : name ∈ ["C", "D"]) => run_extract (hargs name hname)
    (fun c' hc' => hunique name hname c' hc' ▸ hids) (by
      intro c' path q hc' hpath hq
      obtain rfl := hunique name hname c' hc'
      obtain rfl : ⟨"/out/model.txt"⟩ = path := Option.some.inj hpath
      rw [hplace] at hq
      rwa [← hq])
  constructor
  · obtain ⟨-, hcode, hstopped, -⟩ := hends "D" (by simp)
    have hstop : IsStopped s (a "D") := .className (hc "D" (by simp)) hx rfl hnone
    obtain ⟨hstdout, hfile, -⟩ := hstopped hstop
    refine ⟨hcode.mpr hstop, hstdout, (hfile c _ _ (hc "D" (by simp)) rfl hplace).trans ?_⟩
    decide +kernel
  · obtain ⟨-, -, -, hwritten⟩ := hends "C" (by simp)
    have hselect : selectClass x.registry (a "C").className =
        .ok (.ofList (x.registry.get? "p.C").toList) := by
      simp only [selectClass, a, hsome]
    have hcreate : ∀ path, c.output.path = some path → (filesAtReading s c).CanCreate path := by
      intro path hpath
      obtain rfl : ⟨"/out/model.txt"⟩ = path := Option.some.inj hpath
      decide +kernel
    obtain ⟨c', x', r, hc', hx', hr, hcode, hwrites⟩ :=
      hwritten (not_isStopped (hc "C" (by simp)) (by decide +kernel) hx hids hselect hcreate)
    obtain rfl := hunique "C" (by simp) c' hc'
    obtain rfl : x = x' := Except.ok.inj (hx.symm.trans hx')
    obtain ⟨name, m, hname, hm, rfl⟩ := hr
    obtain rfl : "p.C" = name := Option.some.inj (hsome.symm.trans hname)
    rw [hm] at htext
    obtain ⟨hstdout, hread, -⟩ := hwrites
    rw [hreport] at hcode
    refine ⟨hcode, hstdout, hread.trans ?_⟩
    rw [← Option.some.inj htext]

end ApiDoc.CommandLine
