import ApiDoc.Proofs.Documents
import ApiDoc.Proofs.Grouping

/-!
# One document after another

The plain way to extract a registry keeps one map of models and takes in one document after another:
a model of a new class is registered, any other is merged into the model that is there, and a conflict
leaves the map as it is.  An extraction, which reads everything first and then folds class by class,
comes to the same result (`run_eq_sequential`).

The invariant `Agrees` says of every class that the map and the log hold what folding the models of
this class so far gives.  One more model changes this for its own class alone (`agrees_take`).
-/

namespace ApiDoc

/-! ## The pipeline -/

/-- The models that are registered, and what has become of the merges. -/
structure Sequential where
  classes : OrderedMap String ClassModel
  merges : Nat
  conflicts : List MergeConflict

namespace Sequential

def start : Sequential := ⟨.empty, 0, []⟩

/-- Registers a model or merges it into the one that is there. -/
def take (s : Sequential) (m : ClassModel) : Sequential :=
  match s.classes.get? m.fullName with
  | none => { s with classes := s.classes.insert m.fullName m }
  | some old =>
    match old.merge m with
    | .ok merged =>
      { s with classes := s.classes.insert m.fullName merged, merges := s.merges + 1 }
    | .error e => { s with conflicts := s.conflicts ++ [⟨e, old.sources, m.sources⟩] }

/-- The values on the page of constants, if there is one that can be read. -/
def table? (fs : FileSystem) (d : DocumentSet) : Option ConstantTable :=
  d.constants.bind fun p => (readConstants fs p).toOption

/-- The model with its values in a table. -/
def fillFrom (table : Option ConstantTable) (m : ClassModel) : ClassModel :=
  match table.bind (·.get? m.fullName) with
  | some values => m.fill values
  | none => m

/-- Takes in a page, unless it cannot be read. -/
def takePage (fs : FileSystem) (table : Option ConstantTable) (s : Sequential) (page : Path) : Sequential :=
  match modelOfDocument fs page with
  | .ok m => s.take (fillFrom table m)
  | .error _ => s

/-- Takes in the pages of a root. -/
def takeRoot (fs : FileSystem) (s : Sequential) (d : DocumentSet) : Sequential :=
  d.pages.foldl (takePage fs (table? fs d)) s

def ofDocuments (fs : FileSystem) (documents : List DocumentSet) : Sequential :=
  documents.foldl (takeRoot fs) start

/-! ## The models that are taken in -/

theorem fill_ofDocuments (fs : FileSystem) (d : DocumentSet) (m : ClassModel) :
    (RootReading.ofDocuments fs d).fill m = fillFrom (table? fs d) m := by
  unfold RootReading.fill RootReading.values? RootReading.table? RootReading.ofDocuments fillFrom table?
  cases d.constants with
  | none => rfl
  | some p =>
    cases h : readConstants fs p with
    | error e => simp [h, Except.toOption]
    | ok table => cases hv : table.get? m.fullName <;> simp [h, hv, Except.toOption]

theorem takePage_eq_foldl (fs : FileSystem) (d : DocumentSet) (s : Sequential) (page : Path) :
    takePage fs (table? fs d) s page =
      ((RootReading.ofDocuments fs d).modelsOfPage ⟨page, readDocument fs page⟩).foldl take s := by
  unfold takePage modelOfDocument RootReading.modelsOfPage
  cases readDocument fs page with
  | error e => rfl
  | ok decl =>
    show s.take _ = s.take _
    rw [fill_ofDocuments]

theorem takeRoot_eq_foldl (fs : FileSystem) (s : Sequential) (d : DocumentSet) :
    takeRoot fs s d = (RootReading.ofDocuments fs d).models.foldl take s := by
  unfold takeRoot RootReading.models
  show _ = ((d.pages.map fun p => (⟨p, readDocument fs p⟩ : PageReading)).flatMap _).foldl take s
  rw [List.flatMap_map, List.foldl_flatMap]
  congr 1
  funext s page
  exact takePage_eq_foldl fs d s page

/-- The pipeline takes in the models of an extraction from left to right. -/
theorem ofDocuments_eq_foldl (fs : FileSystem) (documents : List DocumentSet) :
    ofDocuments fs documents =
      (Extraction.mk (documents.map (RootReading.ofDocuments fs))).models.foldl take start := by
  unfold ofDocuments Extraction.models
  rw [List.flatMap_map, List.foldl_flatMap]
  congr 1
  funext s d
  exact takeRoot_eq_foldl fs s d

/-! ## One model more -/

/-- Where the map has the model of an outcome, a model is taken in as it is added to the outcome: the
same merges are counted and the same conflicts are logged. -/
theorem take_spec {s : Sequential} {o : FoldOutcome} {m : ClassModel}
    (hs : s.classes.get? m.fullName = o.model) (hn : o.Names m.fullName) :
    ∃ count rejected,
      (s.take m).merges = s.merges + count ∧ (o.add m).merges = o.merges + count ∧
      (s.take m).conflicts = s.conflicts ++ rejected ∧ (o.add m).conflicts = o.conflicts ++ rejected ∧
      (∀ c ∈ rejected, c.error.className = m.fullName) ∧
      ∀ name, (s.take m).classes.get? name =
        if name = m.fullName then (o.add m).model else s.classes.get? name := by
  cases ho : o.model with
  | none =>
    have ht : s.take m = { s with classes := s.classes.insert m.fullName m } := by
      unfold take
      rw [hs, ho]
    rw [ht, FoldOutcome.add_of_none ho]
    refine ⟨0, [], rfl, rfl, (List.append_nil _).symm, (List.append_nil _).symm, by simp, ?_⟩
    intro name
    simp
  | some old =>
    by_cases hc : old.Compatible m
    · have hm : old.merge m = .ok (old.join m) := ClassModel.merge_eq_ok_iff.mpr ⟨hc, rfl⟩
      have ht : s.take m = { s with
          classes := s.classes.insert m.fullName (old.join m), merges := s.merges + 1 } := by
        unfold take
        rw [hs, ho]
        simp only [hm]
      rw [ht, FoldOutcome.add_of_compatible ho hc]
      refine ⟨1, [], rfl, rfl, (List.append_nil _).symm, (List.append_nil _).symm, by simp, ?_⟩
      intro name
      simp
    · obtain ⟨e, he, ha⟩ := FoldOutcome.add_of_not_compatible ho hc
      have ht : s.take m = { s with conflicts := s.conflicts ++ [⟨e, old.sources, m.sources⟩] } := by
        unfold take
        rw [hs, ho]
        simp only [he]
      have hclass : e.className = m.fullName :=
        (ClassModel.className_of_merge he).trans (hn.model old ho)
      rw [ht, ha]
      refine ⟨0, [⟨e, old.sources, m.sources⟩], rfl, rfl, rfl, rfl, by simpa using hclass, ?_⟩
      intro name
      split
      · next hname =>
        subst hname
        rw [← hs]
      · rfl

/-! ## The invariant -/

/-- The state agrees class by class with the folds of the models that have been taken in; the counts
are those of all names. -/
structure Agrees (names : List String) (models : List ClassModel) (s : Sequential) : Prop where
  model : ∀ name, s.classes.get? name = (foldNamed models name).model
  conflicts : ∀ name,
    s.conflicts.filter (·.error.className == name) = (foldNamed models name).conflicts
  merges : s.merges = (names.map fun n => (foldNamed models n).merges).sum
  conflicts_length : s.conflicts.length = (names.map fun n => (foldNamed models n).conflicts.length).sum

theorem agrees_start (names : List String) : Agrees names [] start where
  model _ := rfl
  conflicts _ := rfl
  merges := by
    show 0 = (names.map fun _ => 0).sum
    simp
  conflicts_length := by
    show 0 = (names.map fun _ => 0).sum
    simp

/-- A sum over different names grows by what is added for one of them. -/
theorem sum_map_eq_add {names : List String} {f g : String → Nat} {name : String} {count : Nat}
    (hn : names.Nodup) (hm : name ∈ names) (hg : g name = f name + count)
    (ho : ∀ n, n ≠ name → g n = f n) : (names.map g).sum = (names.map f).sum + count := by
  induction names with
  | nil => cases hm
  | cons n rest ih =>
    obtain ⟨hnot, hrest⟩ := List.nodup_cons.mp hn
    rw [List.map_cons, List.map_cons, List.sum_cons, List.sum_cons]
    by_cases h : n = name
    · subst h
      have hsame : rest.map g = rest.map f :=
        List.map_congr_left fun k hk => ho k fun e => hnot (e ▸ hk)
      rw [hg, hsame]
      omega
    · have hin : name ∈ rest := (List.mem_cons.mp hm).resolve_left (Ne.symm h)
      rw [ho n h, ih hrest hin]
      omega

theorem agrees_take {names : List String} {models : List ClassModel} {s : Sequential} {m : ClassModel}
    (hn : names.Nodup) (hm : m.fullName ∈ names) (h : Agrees names models s) :
    Agrees names (models ++ [m]) (s.take m) := by
  have hself : foldNamed (models ++ [m]) m.fullName = (foldNamed models m.fullName).add m := by
    rw [foldNamed_append, if_pos rfl]
  have hother : ∀ name, name ≠ m.fullName → foldNamed (models ++ [m]) name = foldNamed models name := by
    intro name hne
    rw [foldNamed_append, if_neg hne]
  -- the state and the fold of the class of the model take the same step
  obtain ⟨count, rejected, hmerges, hmerges', hconflicts, hconflicts', hclass, hmodel⟩ :=
    take_spec (h.model m.fullName) (foldNamed_names models m.fullName)
  rw [← hself] at hmerges' hconflicts' hmodel
  constructor
  case model =>
    intro name
    rw [hmodel]
    split
    · next e => rw [e]
    · next hne => rw [hother name hne, h.model]
  case conflicts =>
    intro name
    rw [hconflicts, List.filter_append, h.conflicts]
    by_cases hname : name = m.fullName
    · subst hname
      have hall : rejected.filter (·.error.className == m.fullName) = rejected :=
        List.filter_eq_self.mpr fun c hc => by simpa using hclass c hc
      rw [hall, hconflicts']
    · have hnone : rejected.filter (·.error.className == name) = [] :=
        List.filter_eq_nil_iff.mpr fun c hc => by simpa [hclass c hc] using Ne.symm hname
      rw [hnone, List.append_nil, hother name hname]
  case merges =>
    rw [hmerges, h.merges]
    exact (sum_map_eq_add hn hm hmerges' fun n hne => by rw [hother n hne]).symm
  case conflicts_length =>
    rw [hconflicts, List.length_append, h.conflicts_length]
    refine (sum_map_eq_add hn hm ?_ fun n hne => ?_).symm
    · rw [hconflicts', List.length_append]
    · rw [hother n hne]

theorem agrees_foldl {names : List String} {done : List ClassModel} {s : Sequential}
    (hn : names.Nodup) (h : Agrees names done s) (models : List ClassModel)
    (hm : ∀ m ∈ models, m.fullName ∈ names) : Agrees names (done ++ models) (models.foldl take s) := by
  induction models generalizing done s with
  | nil => simpa using h
  | cons m r ih =>
    obtain ⟨hm, hr⟩ := List.forall_mem_cons.mp hm
    rw [List.foldl_cons, List.append_cons]
    exact ih (agrees_take hn hm h) hr

end Sequential

/-! ## Extraction -/

namespace Extraction

variable {fs : FileSystem} {c : Config} {x : Extraction}

/-- A run succeeds where every root is there and no ids collide. -/
theorem run_eq_ok_iff :
    run fs c = .ok x ↔ ∃ documents, collect fs c = .ok documents ∧
      x = ⟨documents.map (RootReading.ofDocuments fs)⟩ ∧ x.registry.collision? = none := by
  cases hd : collect fs c with
  | error e => simp [run, hd, Except.mapError, bind, Except.bind]
  | ok documents =>
    simp only [run, hd, Except.mapError, bind, Except.bind]
    constructor
    · intro h
      split at h
      · cases h
      · next hn =>
        cases h
        exact ⟨documents, rfl, rfl, hn⟩
    · rintro ⟨found, hf, hx, hn⟩
      cases hf
      rw [← hx, hn]
      rfl

theorem agrees_models (x : Extraction) :
    Sequential.Agrees x.classNames x.models (x.models.foldl Sequential.take .start) := by
  refine Sequential.agrees_foldl x.nodup_classNames (Sequential.agrees_start _) x.models fun m hm => ?_
  exact x.mem_classNames.mpr ⟨m, hm, rfl⟩

/-- An extraction gives the registry, the counts and the conflicts of every class that taking in one
document after another gives. -/
theorem run_eq_sequential (h : run fs c = .ok x) :
    ∃ documents, collect fs c = .ok documents ∧ documents.map (·.root) = c.roots ∧
      (∀ d ∈ documents, d.pages.Pairwise fun p q => p.le q) ∧
      x.registry.classes = (Sequential.ofDocuments fs documents).classes ∧
      x.report.merges = (Sequential.ofDocuments fs documents).merges ∧
      x.report.mergeConflicts = (Sequential.ofDocuments fs documents).conflicts.length ∧
      ∀ name, x.conflicts.filter (·.error.className == name) =
        (Sequential.ofDocuments fs documents).conflicts.filter (·.error.className == name) := by
  obtain ⟨documents, hd, hx, -⟩ := run_eq_ok_iff.mp h
  have hs : Sequential.ofDocuments fs documents = x.models.foldl Sequential.take .start := by
    rw [hx, Sequential.ofDocuments_eq_foldl]
  have ha := x.agrees_models
  rw [← hs] at ha
  refine ⟨documents, hd, roots_of_collect hd, pages_ascending_of_collect hd, ?_, ?_, ?_, ?_⟩
  · apply OrderedMap.ext
    intro name
    exact (x.get?_registry name).trans (ha.model name).symm
  · rw [report_merges, ha.merges]
    rfl
  · rw [report_mergeConflicts, length_conflicts, ha.conflicts_length]
    rfl
  · intro name
    rw [filter_conflicts, ha.conflicts]
    rfl

end Extraction

/-- Four roots with one page each: two declare a class, one an interface of the same name, and one page
is empty. -/
def disagreeingRoots : FileTree :=
  .directory [("a", rootOf classPage), ("b", rootOf ""), ("c", rootOf interfacePage),
    ("d", rootOf classPage)]
where
  classPage := "<h2><b>p</b>C</h2><hr><dl>class C</dl>"
  interfacePage := "<h2><b>p</b>C</h2><hr><dl>interface C</dl>"
  rootOf (page : String) : FileTree :=
    .directory [("p", .directory [("C.html", .file page.toUTF8.toList)])]

/-- The second page is skipped, the third one rejected and the last one merged. -/
theorem run_eq_sequential_of_disagreeingRoots :
    let c := { Config.default with roots := [⟨"a"⟩, ⟨"b"⟩, ⟨"c"⟩, ⟨"d"⟩] }
    ∃ x documents, Extraction.run disagreeingRoots c = .ok x ∧
      Extraction.collect disagreeingRoots c = .ok documents ∧
      (x.report.merges = 1 ∧ x.report.mergeConflicts = 1) ∧
      x.registry.classes = (Sequential.ofDocuments disagreeingRoots documents).classes ∧
      (Sequential.ofDocuments disagreeingRoots documents).merges = 1 ∧
      ∀ name, x.conflicts.filter (·.error.className == name) =
        (Sequential.ofDocuments disagreeingRoots documents).conflicts.filter
          (·.error.className == name) := by
  intro c
  let documents : List DocumentSet := ["a", "b", "c", "d"].map fun r => ⟨⟨r⟩, [⟨r ++ "/p/C.html"⟩], none⟩
  let x : Extraction := ⟨documents.map (RootReading.ofDocuments disagreeingRoots)⟩
  have hd : Extraction.collect disagreeingRoots c = .ok documents := by decide +kernel
  obtain ⟨hi, hcounts⟩ : x.registry.identities = ["p.C"] ∧
      (x.report.merges = 1 ∧ x.report.mergeConflicts = 1) := by decide +kernel
  have hn : x.registry.collision? = none := by
    unfold Registry.collision? findCollision?
    rw [hi]
    simp [findCollision?.go]
  have hx : Extraction.run disagreeingRoots c = .ok x :=
    Extraction.run_eq_ok_iff.mpr ⟨documents, hd, rfl, hn⟩
  obtain ⟨found, hf, -, -, hclasses, hmerges, -, hconflicts⟩ := Extraction.run_eq_sequential hx
  exact ⟨x, found, hx, hf, hcounts, hclasses, hmerges.symm.trans hcounts.1, hconflicts⟩

end ApiDoc
