import ApiDoc.CommandLine.Run
import ApiDoc.Proofs.Results

/-!
# Where settings come from

A setting has the value its document states for it, read as a value of its type, or its default
(`getOr_of_getRecord`).  A run takes a setting from its arguments, else from the document of its
configuration file, else its default counts (`chosen_of_settings`).
-/

namespace ApiDoc

namespace Toml

/-! ## Records -/

section
variable {α β : Type} {fields : List (Field α)}

/-- The fields of a record with the values they are given, in the order in which they are put in. -/
def assignments (fields : List (Field α)) : Toml → List (Field α × Toml)
  | .table _ entries =>
    entries.filterMap fun e => (fields.find? (·.name == e.1)).map fun f => (f, e.2)
  | .array items => fields.zip items
  | .tables items => fields.zip items
  | _ => []

/-- The value given to the fields of a name; the last one counts. -/
def lastValue? (name : String) (l : List (Field α × Toml)) : Option Toml :=
  (l.reverse.find? (·.1.name == name)).map (·.2)

/-- The value stated for a field of a record. -/
def stated? (fields : List (Field α)) (name : String) (v : Toml) : Option Toml :=
  lastValue? name (assignments fields v)

/-- What is read from a value that is stated; the default if none is. -/
def getOr (get : Toml → Setting β) (default : β) (stated : Option Toml) : Setting β :=
  stated.elim (.ok default) get

/-- A field of a name puts a part into the record; any other field leaves the part as it is. -/
def Governs (name : String) (part : α → β) (get : Toml → Setting β) (f : Field α) : Prop :=
  ∀ v a b, f.set v a = .ok b → if f.name = name then get v = .ok (part b) else part b = part a

theorem mem_of_mem_assignments {v : Toml} {e : Field α × Toml} (h : e ∈ assignments fields v) :
    e.1 ∈ fields := by
  unfold assignments at h
  split at h
  · obtain ⟨e', -, he⟩ := List.mem_filterMap.mp h
    obtain ⟨f, hf, rfl⟩ := Option.map_eq_some_iff.mp he
    exact List.mem_of_find?_eq_some hf
  · exact (List.of_mem_zip h).1
  · exact (List.of_mem_zip h).1
  · cases h

/-- A record is made by putting in its values one after another. -/
theorem foldlM_of_getRecord {name : String} {start r : α} {v : Toml}
    (h : getRecord name fields start v = .ok r) :
    (assignments fields v).foldlM (fun a e => e.1.set e.2 a) start = .ok r := by
  cases v with
  | table origin entries =>
    simp only [getRecord] at h
    rw [assignments]
    induction entries generalizing start with
    | nil => exact h
    | cons e entries ih =>
      rw [List.foldlM_cons] at h
      cases hf : fields.find? (·.name == e.1) with
      | none => rw [hf] at h; cases h
      | some f =>
        simp only [hf] at h
        rw [List.filterMap_cons_some (by rw [hf]; rfl), List.foldlM_cons]
        cases hset : f.set e.2 start with
        | error e => rw [hset] at h; cases h
        | ok a =>
          rw [hset] at h
          exact ih h
  | array items => exact h
  | tables items => exact h
  | _ => cases h

/-- The last value of the part is in the record, or the part is that of the start. -/
theorem getOr_of_foldlM {name : String} {part : α → β} {get : Toml → Setting β}
    {l : List (Field α × Toml)} (hl : ∀ e ∈ l, Governs name part get e.1) {start r : α}
    (h : l.foldlM (fun a e => e.1.set e.2 a) start = .ok r) :
    getOr get (part start) (lastValue? name l) = .ok (part r) := by
  induction l generalizing start with
  | nil =>
    obtain rfl := Except.ok.inj h
    rfl
  | cons e l ih =>
    obtain ⟨he, hl⟩ := List.forall_mem_cons.mp hl
    rw [List.foldlM_cons] at h
    cases hset : e.1.set e.2 start with
    | error e => rw [hset] at h; cases h
    | ok a =>
      rw [hset] at h
      have hrest := ih hl h
      have hlast : lastValue? name (e :: l) =
          (lastValue? name l).or (if e.1.name = name then some e.2 else none) := by
        unfold lastValue?
        rw [List.reverse_cons, List.find?_append]
        by_cases hname : e.1.name = name <;>
          cases l.reverse.find? (·.1.name == name) <;> simp [hname]
      rw [hlast]
      cases hv : lastValue? name l with
      | some v => rwa [hv] at hrest
      | none =>
        rw [hv] at hrest
        obtain hpart : part a = part r := Except.ok.inj hrest
        rw [Option.none_or, ← hpart]
        have hput := he _ _ _ hset
        by_cases hname : e.1.name = name
        · rw [if_pos hname] at hput ⊢
          exact hput
        · rw [if_neg hname] at hput ⊢
          rw [hput]
          rfl

/-- A part of a record is what is read from the value stated for it, or that of the start. -/
theorem getOr_of_getRecord {name record : String} {part : α → β} {get : Toml → Setting β}
    (hg : ∀ f ∈ fields, Governs name part get f) {start r : α} {v : Toml}
    (h : getRecord record fields start v = .ok r) :
    getOr get (part start) (stated? fields name v) = .ok (part r) :=
  getOr_of_foldlM (fun _ he => hg _ (mem_of_mem_assignments he)) (foldlM_of_getRecord h)

/-- A field that is read from its value and put into the record. -/
theorem governs_of_reads {γ : Type} {name : String} {part : α → β} {get : Toml → Setting β}
    {read : Toml → Setting γ} {put : γ → α → α}
    (h : ∀ v x a, read v = .ok x → get v = .ok (part (put x a))) :
    Governs name part get ⟨name, fun v a => do return put (← read v) a⟩ := by
  intro v a b hset
  obtain ⟨x, hx, hput⟩ := Except.bind_eq_ok_iff.mp hset
  rw [if_pos rfl, ← Except.pure_eq_ok_iff.mp hput]
  exact h v x a hx

theorem governs_of_keeps {γ : Type} {name other : String} {part : α → β} {get : Toml → Setting β}
    {read : Toml → Setting γ} {put : γ → α → α} (hname : other ≠ name)
    (h : ∀ x a, part (put x a) = part a) :
    Governs name part get ⟨other, fun v a => do return put (← read v) a⟩ := by
  intro v a b hset
  obtain ⟨x, -, hput⟩ := Except.bind_eq_ok_iff.mp hset
  rw [if_neg hname, ← Except.pure_eq_ok_iff.mp hput]
  exact h x a

end

/-! ## Tables of settings -/

theorem governs_format : ∀ f ∈ outputFields, Governs "format" OutputSettings.format getFormat f := by
  simp only [outputFields, List.forall_mem_cons]
  exact ⟨governs_of_reads fun _ _ _ h => h, governs_of_keeps (by decide) fun _ _ => rfl,
    List.forall_mem_nil _⟩

/-- A path that is stated. -/
def getSomePath (v : Toml) : Setting (Option Path) := v.getPath.map some

theorem governs_path : ∀ f ∈ outputFields, Governs "path" OutputSettings.path getSomePath f := by
  simp only [outputFields, List.forall_mem_cons]
  refine ⟨governs_of_keeps (by decide) fun _ _ => rfl, governs_of_reads fun v x a h => ?_,
    List.forall_mem_nil _⟩
  rw [getSomePath, h]
  rfl

theorem governs_threads : ∀ f ∈ readingFields, Governs "threads" ReadingSettings.threads getNat f := by
  simp only [readingFields, List.forall_mem_cons]
  exact ⟨governs_of_keeps (by decide) fun _ _ => rfl, governs_of_reads fun _ _ _ h => h,
    List.forall_mem_nil _⟩

theorem governs_roots : ∀ f ∈ configFields, Governs "doc_roots" Config.roots (getList getPath) f := by
  simp only [configFields, List.forall_mem_cons]
  exact ⟨governs_of_reads fun _ _ _ h => h, governs_of_keeps (by decide) fun _ _ => rfl,
    governs_of_keeps (by decide) fun _ _ => rfl, governs_of_keeps (by decide) fun _ _ => rfl,
    governs_of_keeps (by decide) fun _ _ => rfl, List.forall_mem_nil _⟩

theorem governs_reading : ∀ f ∈ configFields, Governs "extraction" Config.reading
    (getRecord "ExtractionConfig" readingFields .default) f := by
  simp only [configFields, List.forall_mem_cons]
  exact ⟨governs_of_keeps (by decide) fun _ _ => rfl, governs_of_keeps (by decide) fun _ _ => rfl,
    governs_of_reads fun _ _ _ h => h, governs_of_keeps (by decide) fun _ _ => rfl,
    governs_of_keeps (by decide) fun _ _ => rfl, List.forall_mem_nil _⟩

theorem governs_output : ∀ f ∈ configFields, Governs "output" Config.output
    (getRecord "OutputConfig" outputFields .default) f := by
  simp only [configFields, List.forall_mem_cons]
  exact ⟨governs_of_keeps (by decide) fun _ _ => rfl, governs_of_keeps (by decide) fun _ _ => rfl,
    governs_of_keeps (by decide) fun _ _ => rfl, governs_of_keeps (by decide) fun _ _ => rfl,
    governs_of_reads fun _ _ _ h => h, List.forall_mem_nil _⟩

/-- The value stated for a setting in a table of the configuration. -/
def statedIn? {α : Type} (table : String) (fields : List (Field α)) (name : String) (doc : Toml) :
    Option Toml := (stated? configFields table doc).bind fun v => stated? fields name v

/-- A setting in a table that is left out has its default. -/
theorem getOr_bind {α β : Type} {record name : String} {fields : List (Field α)} {part : α → β}
    {get : Toml → Setting β} (hg : ∀ f ∈ fields, Governs name part get f) {start r : α}
    {table : Option Toml} (h : getOr (getRecord record fields start) start table = .ok r) :
    getOr get (part start) (table.bind fun v => stated? fields name v) = .ok (part r) := by
  cases table with
  | none =>
    obtain rfl := Except.ok.inj h
    rfl
  | some v => exact getOr_of_getRecord hg h

end Toml

/-! ## Configuration files -/

namespace Config

/-- The document in a configuration file. -/
def document? (fs : FileSystem) (path : Path) : Option Toml :=
  match fs.read path with
  | .ok bytes => (String.fromUTF8? ⟨bytes.toArray⟩).bind fun text => Toml.ofText text.toList
  | .error _ => none

/-- Roots as they are seen from the directory of a file. -/
def seenFrom (file : Option Path) (roots : List Path) : List Path :=
  match file.bind Path.parent? with
  | some base => roots.map base.join
  | none => roots

theorem seenFrom_nil {file : Option Path} : seenFrom file [] = [] := by
  unfold seenFrom
  split <;> rfl

/-- What is loaded is in the document, but for the roots, which are seen from the file. -/
theorem exists_of_load {fs : FileSystem} {path : Path} {c : Config} (h : load fs path = .ok c) :
    ∃ doc r, document? fs path = some doc ∧
      Toml.getRecord "JdocConfig" Toml.configFields default doc = .ok r ∧
      c = { r with roots := seenFrom (some path) r.roots } := by
  simp only [load, Except.bind_eq_ok_iff, Except.mapError_eq_ok_iff] at h
  obtain ⟨bytes, hread, h⟩ := h
  split at h
  · next text htext =>
    obtain ⟨r, hr, h⟩ := Except.bind_eq_ok_iff.mp h
    unfold ofText at hr
    cases hdoc : Toml.ofText text.toList with
    | none => rw [hdoc] at hr; cases hr
    | some doc =>
      rw [hdoc] at hr
      refine ⟨doc, r, by simp [document?, hread, htext, hdoc], Except.mapError_eq_ok_iff.mp hr, ?_⟩
      unfold seenFrom
      rw [Option.bind_some]
      cases hparent : path.parent? with
      | none =>
        rw [hparent] at h
        exact (Except.ok.inj h).symm
      | some base =>
        rw [hparent] at h
        exact (Except.ok.inj h).symm
  · cases h

end Config

namespace CommandLine

/-! ## Settings of a run -/

/-- A setting is that of the argument, else that of the document, else the default. -/
inductive Chosen {β : Type} (argument : Option β) (get : Toml → Toml.Setting β) (stated : Option Toml)
    (default b : β) : Prop
  | argument (h : argument = some b)
  | document {v : Toml} (hargument : argument = none) (hstated : stated = some v) (h : get v = .ok b)
  | default (hargument : argument = none) (hstated : stated = none) (h : b = default)

theorem chosen_of_getOr {β : Type} (argument : Option β) {get : Toml → Toml.Setting β}
    {stated : Option Toml} {default b : β} (h : Toml.getOr get default stated = .ok b) :
    Chosen argument get stated default (argument.getD b) := by
  cases argument with
  | some a => exact .argument rfl
  | none =>
    cases stated with
    | none => exact .default rfl rfl (Except.ok.inj h).symm
    | some v => exact .document rfl rfl h

/-- The configuration of a run, its arguments taken into account. -/
def settings (s : Surroundings) (a : ExtractArguments) : Except String Config :=
  (baseConfig s.files a).map (applyArguments · a)

/-- The document of the configuration file, if there is such a file. -/
def document? (s : Surroundings) (a : ExtractArguments) : Option Toml :=
  a.config.bind (Config.document? s.files)

/-- The roots that a value states, seen from the configuration file. -/
def getRoots (a : ExtractArguments) (v : Toml) : Toml.Setting (List Path) :=
  (v.getList Toml.getPath).map (Config.seenFrom a.config)

/-- The settings of a run before its arguments are taken into account. -/
structure BaseStated (s : Surroundings) (a : ExtractArguments) (base : Config) : Prop where
  document : (document? s a).isSome = a.config.isSome
  roots : Toml.getOr (getRoots a) []
    ((document? s a).bind (Toml.stated? Toml.configFields "doc_roots")) = .ok base.roots
  format : Toml.getOr Toml.getFormat .json
    ((document? s a).bind (Toml.statedIn? "output" Toml.outputFields "format")) =
      .ok base.output.format
  path : Toml.getOr Toml.getSomePath none
    ((document? s a).bind (Toml.statedIn? "output" Toml.outputFields "path")) = .ok base.output.path
  threads : Toml.getOr Toml.getNat 0
    ((document? s a).bind (Toml.statedIn? "extraction" Toml.readingFields "threads")) =
      .ok base.reading.threads

theorem baseStated_of_baseConfig {s : Surroundings} {a : ExtractArguments} {base : Config}
    (h : baseConfig s.files a = .ok base) : BaseStated s a base := by
  unfold baseConfig at h
  cases hconfig : a.config with
  | none =>
    rw [hconfig] at h
    obtain rfl := Except.ok.inj h
    have hdoc : document? s a = none := by rw [document?, hconfig, Option.bind_none]
    refine ⟨by rw [hdoc, hconfig]; rfl, ?_, ?_, ?_, ?_⟩ <;> rw [hdoc] <;> rfl
  | some path =>
    rw [hconfig] at h
    obtain ⟨doc, r, hdoc, hr, rfl⟩ := Config.exists_of_load (Except.mapError_eq_ok_iff.mp h)
    have hdoc : document? s a = some doc := by rw [document?, hconfig, Option.bind_some, hdoc]
    have hroots := Toml.getOr_of_getRecord Toml.governs_roots hr
    have houtput := Toml.getOr_of_getRecord Toml.governs_output hr
    have hreading := Toml.getOr_of_getRecord Toml.governs_reading hr
    refine ⟨by rw [hdoc, hconfig]; rfl, ?_, ?_, ?_, ?_⟩ <;> rw [hdoc, Option.bind_some]
    · cases hstated : Toml.stated? Toml.configFields "doc_roots" doc with
      | none =>
        rw [hstated] at hroots
        obtain hnil : [] = r.roots := Except.ok.inj hroots
        show Except.ok [] = Except.ok (Config.seenFrom (some path) r.roots)
        rw [← hnil, Config.seenFrom_nil]
      | some v =>
        rw [hstated] at hroots
        change v.getList Toml.getPath = .ok r.roots at hroots
        change getRoots a v = _
        rw [getRoots, hroots, hconfig]
        rfl
    · exact Toml.getOr_bind Toml.governs_format houtput
    · exact Toml.getOr_bind Toml.governs_path houtput
    · exact Toml.getOr_bind Toml.governs_threads hreading

/-- Where the settings of a run come from: its arguments, the document, which is there if a
configuration file is named, and the defaults. -/
structure SettingsChosen (s : Surroundings) (a : ExtractArguments) (c : Config) : Prop where
  document : (document? s a).isSome = a.config.isSome
  roots : Chosen (if a.roots.isEmpty then none else some a.roots) (getRoots a)
    ((document? s a).bind (Toml.stated? Toml.configFields "doc_roots")) [] c.roots
  format : Chosen a.format Toml.getFormat
    ((document? s a).bind (Toml.statedIn? "output" Toml.outputFields "format")) .json c.output.format
  path : Chosen (a.out.map some) Toml.getSomePath
    ((document? s a).bind (Toml.statedIn? "output" Toml.outputFields "path")) none c.output.path
  threads : Chosen a.threads Toml.getNat
    ((document? s a).bind (Toml.statedIn? "extraction" Toml.readingFields "threads")) 0
    c.reading.threads

theorem chosen_of_settings {s : Surroundings} {a : ExtractArguments} {c : Config}
    (h : settings s a = .ok c) : SettingsChosen s a c := by
  unfold settings at h
  cases hbase : baseConfig s.files a with
  | error e => rw [hbase] at h; cases h
  | ok base =>
    rw [hbase] at h
    obtain rfl := Except.ok.inj h
    obtain ⟨hdocument, hroots, hformat, hpath, hthreads⟩ := baseStated_of_baseConfig hbase
    have hroots' : (applyArguments base a).roots =
        (if a.roots.isEmpty then none else some a.roots).getD base.roots := by
      rw [applyArguments]
      split <;> rfl
    have hpath' : (applyArguments base a).output.path = (a.out.map some).getD base.output.path := by
      rw [applyArguments]
      cases a.out <;> rfl
    refine ⟨hdocument, ?_, chosen_of_getOr _ hformat, ?_, chosen_of_getOr _ hthreads⟩
    · rw [hroots']
      exact chosen_of_getOr _ hroots
    · rw [hpath']
      exact chosen_of_getOr _ hpath

end CommandLine

end ApiDoc
