import ApiDoc.Proofs.Acceptance
import ApiDoc.Proofs.Isolation

/-!
# The report adds up

Every page is parsed or reported, every parsed model is the first of its class, merged or reported, and
every finding that is no warning is counted under one sort (`Finding.countP_isError`).  So the counts
of a report can be told from each other (`run_report_accounts`):

    seen = parsed + failed
    parsed = classes + merges + conflicts
    errors = failed + conflicts + mismatches + malformed pages of constants
-/

namespace ApiDoc

/-! ## Models and classes -/

namespace Extraction

variable (x : Extraction)

/-- A class with a model has one in the registry. -/
theorem exists_model_foldClass_iff {name : String} :
    (∃ m, (x.foldClass name).model = some m) ↔ name ∈ x.classNames := by
  constructor
  · rintro ⟨m, hm⟩
    by_contra hn
    rw [x.foldClass_of_not_mem hn] at hm
    cases hm
  · intro hn
    obtain ⟨m, hm, hname⟩ := x.mem_classNames.mp hn
    have hmem : m ∈ x.models.filter (·.fullName == name) := by simp [hm, hname]
    obtain ⟨acc, hacc, -⟩ := joins_acceptedModels (List.ne_nil_of_mem hmem)
    exact ⟨acc, hacc⟩

theorem names_registry : x.registry.names = x.classNames := by
  refine OrderedSet.eq_of_pairwise (List.pairwise_map.mpr x.registry.classes.ascending)
    (OrderedSet.ascending _) fun name => ?_
  rw [← x.exists_model_foldClass_iff, ← x.get?_registry]
  exact OrderedMap.mem_keys_iff

theorem size_registry : x.registry.size = x.classNames.length := by
  rw [← names_registry]
  exact (List.length_map _).symm

/-- Every model is in the group of one class. -/
theorem sum_length_filter_models :
    (x.classNames.map fun n => (x.models.filter (·.fullName == n)).length).sum =
      x.models.length := by
  have hcount : ∀ n, (x.models.filter (·.fullName == n)).length =
      (x.models.map (·.fullName)).count n := by
    intro n
    rw [List.count, List.countP_map, List.countP_eq_length_filter]
    rfl
  have hperm : x.classNames.Perm (x.models.map (·.fullName)).dedup := by
    refine (List.perm_ext_iff_of_nodup x.nodup_classNames (List.nodup_dedup _)).mpr fun n => ?_
    rw [List.mem_dedup, mem_classNames, List.mem_map]
  simp only [hcount]
  rw [(hperm.map _).sum_eq, List.sum_map_count_dedup_eq_length, List.length_map]

/-- A model is the first of its class, merged or reported. -/
theorem length_models :
    x.models.length = x.registry.size + x.report.merges + x.report.mergeConflicts := by
  have hclass : ∀ n ∈ x.classNames, (x.models.filter (·.fullName == n)).length =
      1 + (x.foldClass n).merges + (x.foldClass n).conflicts.length := by
    intro n hn
    obtain ⟨m, hm⟩ := x.exists_model_foldClass_iff.mpr hn
    have htotal : (x.foldClass n).total = (x.models.filter (·.fullName == n)).length :=
      foldModels_total _
    rw [← htotal, FoldOutcome.total, hm]
    rfl
  have hones : (x.classNames.map fun _ => 1).sum = x.registry.size := by
    rw [size_registry]
    simp
  rw [report_merges, report_mergeConflicts, length_conflicts, ← sum_length_filter_models,
    List.map_congr_left hclass, List.sum_map_add, List.sum_map_add, hones]

end Extraction

/-! ## Sorts of findings -/

namespace Finding

def isError (f : Finding) : Bool := f.severity == .error

def isWarning (f : Finding) : Bool := f.severity == .warning

/-- Whether a page of constants has a malformed row. -/
def isMalformedTable : Finding → Bool
  | .constants (.malformed _ _) => true
  | _ => false

/-- Every error is of one sort. -/
theorem countP_isError (l : List Finding) :
    l.countP isError = l.countP isFailure + l.countP isConflict + l.countP isDisagreement +
      l.countP isMalformedTable := by
  induction l with
  | nil => rfl
  | cons f r ih =>
    have hone : (if f.isError then 1 else 0) = (if f.isFailure then 1 else 0) +
        (if f.isConflict then 1 else 0) + (if f.isDisagreement then 1 else 0) +
          if f.isMalformedTable then 1 else 0 := by
      rcases f with e | (e | e) | e | e | e <;> rfl
    simp only [List.countP_cons]
    omega

end Finding

namespace RootReading

/-- What is found about pages is of two sorts. -/
theorem countP_pageFindings_eq_zero (r : RootReading) {p : Finding → Bool}
    (hdocument : ∀ e, p (.document e) = false)
    (hdisagreement : ∀ c page e, p (.disagreement c page e) = false) :
    (r.pages.flatMap r.pageFindings).countP p = 0 := by
  refine List.countP_eq_zero.mpr fun f hf => ?_
  obtain ⟨page, -, hf⟩ := List.mem_flatMap.mp hf
  rw [Bool.not_eq_true]
  rcases exists_of_mem_pageFindings hf with ⟨e, -, rfl⟩ | ⟨c, e, rfl⟩
  · exact hdocument e
  · exact hdisagreement c page.path e

theorem countP_findings (r : RootReading) (p : Finding → Bool) :
    r.findings.countP p = r.constantsFindings.countP p +
      (r.pages.flatMap r.pageFindings).countP p + r.undescribedFindings.countP p := by
  unfold findings
  rw [List.countP_append, List.countP_append]

end RootReading

/-! ## Roots -/

namespace DocumentSet

variable (fs : FileSystem) (d : DocumentSet)

/-- Whether the page of constants has a malformed row. -/
def hasMalformedTable : Bool :=
  match d.constants.map (readConstants fs) with
  | some (.error (.malformed _ _)) => true
  | _ => false

/-- Whether a page describes a class. -/
def describes (name : String) : Bool :=
  d.pages.any fun p => match readDocument fs p with
    | .ok decl => decl.fullName == name
    | .error _ => false

/-- The classes that the page of constants lists and no page describes. -/
def undescribed : List String :=
  match Sequential.table? fs d with
  | some table => table.keys.filter fun name => !d.describes fs name
  | none => []

end DocumentSet

/-- A page of constants that can be read fails by a malformed row only. -/
theorem exists_of_readConstants {fs : FileSystem} {p : Path} {e : ConstantsError}
    (hread : ∃ bytes, fs.read p = .ok bytes) (h : readConstants fs p = .error e) :
    ∃ row, e = .malformed p row := by
  obtain ⟨bytes, hbytes⟩ := hread
  unfold readConstants at h
  rw [hbytes] at h
  cases hpage : ConstantTable.ofPage (Text.decodeLossy bytes) with
  | ok table => simp [hpage, Except.mapError] at h
  | error row =>
    simp only [hpage, Except.mapError, Except.error.injEq] at h
    exact ⟨row, h.symm⟩

namespace RootReading

variable (fs : FileSystem) (d : DocumentSet)

theorem countP_isMalformedTable_findings :
    (ofDocuments fs d).findings.countP Finding.isMalformedTable =
      if d.hasMalformedTable fs then 1 else 0 := by
  have hpages := (ofDocuments fs d).countP_pageFindings_eq_zero (p := Finding.isMalformedTable)
    (fun _ => rfl) fun _ _ _ => rfl
  have hundescribed : (ofDocuments fs d).undescribedFindings.countP Finding.isMalformedTable = 0 := by
    refine List.countP_eq_zero.mpr fun f hf => ?_
    obtain ⟨c, name, rfl⟩ := exists_of_mem_undescribedFindings hf
    exact Bool.false_ne_true
  rw [countP_findings, hpages, hundescribed]
  unfold constantsFindings DocumentSet.hasMalformedTable ofDocuments
  cases d.constants with
  | none => rfl
  | some p =>
    cases h : readConstants fs p with
    | ok table => simp [h]
    | error e => cases e <;> simp [h, Finding.isMalformedTable]

theorem map_snd_table? : (ofDocuments fs d).table?.map (·.2) = Sequential.table? fs d := by
  unfold table? ofDocuments Sequential.table?
  cases d.constants with
  | none => rfl
  | some p => cases h : readConstants fs p <;> simp [h, Except.toOption]

theorem fullName_fill (r : RootReading) (m : ClassModel) : (r.fill m).fullName = m.fullName := by
  unfold fill
  split <;> rfl

/-- A class is described exactly if the root gives a model of it. -/
theorem contains_map_fullName (name : String) :
    ((ofDocuments fs d).models.map (·.fullName)).contains name = d.describes fs name := by
  rw [Bool.eq_iff_iff, List.contains_iff_mem, List.mem_map, DocumentSet.describes, List.any_eq_true]
  constructor
  · rintro ⟨m, hm, rfl⟩
    obtain ⟨p, hp, hm⟩ := List.mem_flatMap.mp hm
    obtain ⟨path, hpath, rfl⟩ := List.mem_map.mp hp
    refine ⟨path, hpath, ?_⟩
    unfold modelsOfPage at hm
    split at hm
    · next decl hdecl =>
      have hdecl : readDocument fs path = .ok decl := hdecl
      rw [hdecl, List.mem_singleton.mp hm, fullName_fill]
      exact beq_self_eq_true _
    · cases hm
  · rintro ⟨path, hpath, hname⟩
    split at hname
    · next decl hdecl =>
      refine ⟨(ofDocuments fs d).fill (decl.freeze (some path)), List.mem_flatMap.mpr
        ⟨⟨path, readDocument fs path⟩, List.mem_map_of_mem hpath, ?_⟩, ?_⟩
      · rw [modelsOfPage, hdecl]
        exact List.mem_singleton.mpr rfl
      · rw [fullName_fill]
        exact beq_iff_eq.mp hname
    · cases hname

theorem countP_isWarning_findings :
    (ofDocuments fs d).findings.countP Finding.isWarning = (d.undescribed fs).length := by
  have hconstants : (ofDocuments fs d).constantsFindings.countP Finding.isWarning = 0 := by
    refine List.countP_eq_zero.mpr fun f hf => ?_
    obtain ⟨c, e, -, -, rfl⟩ := exists_of_mem_constantsFindings hf
    exact Bool.false_ne_true
  have hpages := (ofDocuments fs d).countP_pageFindings_eq_zero (p := Finding.isWarning)
    (fun _ => rfl) fun _ _ _ => rfl
  have hall : (ofDocuments fs d).undescribedFindings.countP Finding.isWarning =
      (ofDocuments fs d).undescribedFindings.length := by
    refine List.countP_eq_length.mpr fun f hf => ?_
    obtain ⟨c, name, rfl⟩ := exists_of_mem_undescribedFindings hf
    rfl
  rw [countP_findings, hconstants, hpages, hall, DocumentSet.undescribed, ← map_snd_table?]
  unfold undescribedFindings
  cases (ofDocuments fs d).table? with
  | none => rfl
  | some c =>
    simp only [Option.map_some, contains_map_fullName, List.length_map, Nat.zero_add]

/-- A page of constants that can be read is no failure. -/
theorem countP_isFailure_findings
    (h : ∀ p, d.constants = some p → ∃ bytes, fs.read p = .ok bytes) :
    (ofDocuments fs d).findings.countP Finding.isFailure = (d.failures fs).length := by
  have hsame : ∀ f ∈ (ofDocuments fs d).findings, f.isFailure = f.document?.isSome := by
    intro f hf
    rcases exists_of_mem_findings hf with ⟨c, e, hc, he, rfl⟩ | ⟨p, e, -, -, rfl⟩ |
      ⟨p, c, e, -, rfl⟩ | ⟨c, name, rfl⟩
    · obtain ⟨p, hp, rfl⟩ := Option.map_eq_some_iff.mp hc
      obtain ⟨row, rfl⟩ := exists_of_readConstants (h p hp) he
      rfl
    · rfl
    · rfl
    · rfl
  rw [← filterMap_document?_findings, List.length_filterMap_eq_countP]
  exact List.countP_congr fun f hf => by rw [hsame f hf]

/-- Every page gives a model or an error. -/
theorem length_models_add_failures :
    (ofDocuments fs d).models.length + (d.failures fs).length = d.pages.length := by
  unfold models DocumentSet.failures
  show ((d.pages.map fun p => (⟨p, readDocument fs p⟩ : PageReading)).flatMap _).length + _ = _
  rw [List.flatMap_map]
  generalize ofDocuments fs d = r
  induction d.pages with
  | nil => rfl
  | cons p pages ih =>
    rw [List.flatMap_cons, List.length_append, List.length_cons, ← ih]
    cases h : readDocument fs p with
    | ok decl =>
      rw [List.filterMap_cons_none (by rw [h])]
      simp only [modelsOfPage, List.length_singleton]
      omega
    | error e =>
      rw [List.filterMap_cons_some (by rw [h])]
      simp only [modelsOfPage, List.length_nil, List.length_cons]
      omega

end RootReading

/-! ## Files that are there -/

theorem FileSystem.exists_read {fs : FileSystem} {p : Path} (h : fs.hasFile p = true) :
    ∃ bytes, fs.read p = .ok bytes := by
  unfold hasFile at h
  split at h
  · next content hlookup =>
    unfold read
    rw [hlookup]
    exact ⟨content, rfl⟩
  · cases h

/-- The page of constants in a document set can be read. -/
theorem DocumentSet.exists_read_constants {fs : FileSystem} {s : Selection} {constantsFile : String}
    {root : Path} {d : DocumentSet} (h : collect fs s constantsFile root = .ok d) {p : Path}
    (hp : d.constants = some p) : ∃ bytes, fs.read p = .ok bytes := by
  unfold collect at h
  split at h
  · cases h
    dsimp only at hp
    split at hp
    · next hfile =>
      cases hp
      exact FileSystem.exists_read hfile
    · cases hp
  · cases h

namespace Extraction

variable {fs : FileSystem} {c : Config} {documents : List DocumentSet} {x : Extraction}

theorem exists_read_of_collect (h : collect fs c = .ok documents) :
    ∀ d ∈ documents, ∀ p, d.constants = some p → ∃ bytes, fs.read p = .ok bytes :=
  forall_mem_of_mapM_eq_ok h fun _ _ hd _ hp => DocumentSet.exists_read_constants hd hp

/-! ## Counts of findings -/

/-- Findings of other sorts than conflicts are counted root by root. -/
theorem countP_findings {p : Finding → Bool} (hp : ∀ c, p (.conflict c) = false) :
    (ofDocuments fs documents).findings.countP p =
      (documents.map fun d => (RootReading.ofDocuments fs d).findings.countP p).sum := by
  have hconflicts : (ofDocuments fs documents).conflictFindings.countP p = 0 := by
    refine List.countP_eq_zero.mpr fun f hf => ?_
    obtain ⟨o, -, hf⟩ := List.mem_flatMap.mp hf
    obtain ⟨c, -, rfl⟩ := List.mem_map.mp hf
    rw [hp]
    exact Bool.false_ne_true
  unfold findings
  rw [List.countP_append, hconflicts, Nat.add_zero, List.countP_flatMap]
  unfold ofDocuments
  rw [List.map_map]
  rfl

theorem countP_isMalformedTable_findings :
    (ofDocuments fs documents).findings.countP Finding.isMalformedTable =
      documents.countP (·.hasMalformedTable fs) := by
  rw [countP_findings fun _ => rfl]
  simp only [RootReading.countP_isMalformedTable_findings]
  induction documents with
  | nil => rfl
  | cons d r ih => rw [List.map_cons, List.sum_cons, ih, List.countP_cons, Nat.add_comm]

theorem countP_isWarning_findings :
    (ofDocuments fs documents).findings.countP Finding.isWarning =
      (documents.map fun d => (d.undescribed fs).length).sum := by
  rw [countP_findings fun _ => rfl]
  simp only [RootReading.countP_isWarning_findings]

/-- If every page of constants can be read, the failures are those of class pages. -/
theorem documentsFailed_eq
    (h : ∀ d ∈ documents, ∀ p, d.constants = some p → ∃ bytes, fs.read p = .ok bytes) :
    (ofDocuments fs documents).report.documentsFailed =
      (documents.map fun d => (d.failures fs).length).sum := by
  show (ofDocuments fs documents).findings.countP Finding.isFailure = _
  rw [countP_findings fun _ => rfl]
  exact congrArg List.sum
    (List.map_congr_left fun d hd => RootReading.countP_isFailure_findings fs d (h d hd))

theorem documentsSeen_eq :
    (ofDocuments fs documents).report.documentsSeen = (documents.map (·.pages.length)).sum := by
  show (documents.map (RootReading.ofDocuments fs)).foldl (fun n r => n + r.pages.length) 0 = _
  rw [List.sum_eq_foldl_nat, List.foldl_map, List.foldl_map]
  simp only [RootReading.ofDocuments, List.length_map]

theorem documentsParsed_eq :
    (ofDocuments fs documents).report.documentsParsed =
      (documents.map fun d => (RootReading.ofDocuments fs d).models.length).sum := by
  show (ofDocuments fs documents).models.length = _
  unfold models ofDocuments
  rw [List.length_flatMap, List.map_map]
  rfl

end Extraction

/-! ## The report -/

namespace Report

def errors (r : Report) : Nat := r.diagnostics.countP (·.severity == .error)

def warnings (r : Report) : Nat := r.diagnostics.countP (·.severity == .warning)

theorem hasErrors_iff (r : Report) : r.hasErrors = true ↔ 0 < r.errors := by
  rw [hasErrors, errors, List.any_eq_true, List.countP_pos_iff]

end Report

namespace Extraction

variable {fs : FileSystem} {c : Config} {x : Extraction}

/-- The counts of a run: every page is parsed or failed; every parsed one is the first of a class in the
registry, merged or in conflict; an error is a failure, a conflict, a mismatch or a malformed page of
constants; and a warning is a class that the page of constants of a root lists and no page there
describes. -/
theorem run_report_accounts (h : run fs c = .ok x) :
    ∃ documents, collect fs c = .ok documents ∧ documents.map (·.root) = c.roots ∧
      x.report.documentsSeen = (documents.map (·.pages.length)).sum ∧
      x.report.documentsFailed = (documents.map fun d => (d.failures fs).length).sum ∧
      x.report.documentsSeen = x.report.documentsParsed + x.report.documentsFailed ∧
      x.report.documentsParsed = x.report.classes + x.report.merges + x.report.mergeConflicts ∧
      x.report.classes = x.registry.size ∧
      x.report.errors = x.report.documentsFailed + x.report.mergeConflicts +
        x.report.constantMismatches + documents.countP (·.hasMalformedTable fs) ∧
      x.report.warnings = (documents.map fun d => (d.undescribed fs).length).sum ∧
      (x.report.hasErrors = true ↔ 0 < x.report.errors) := by
  obtain ⟨documents, hd, hx, -⟩ := run_eq_ok_iff.mp h
  replace hx : x = ofDocuments fs documents := hx
  have hfailed := documentsFailed_eq (exists_read_of_collect hd)
  refine ⟨documents, hd, roots_of_collect hd, ?_, ?_, ?_, x.length_models, rfl, ?_, ?_,
    x.report.hasErrors_iff⟩
  · rw [hx, documentsSeen_eq]
  · rw [hx, hfailed]
  · rw [hx, documentsSeen_eq, documentsParsed_eq, hfailed, ← List.sum_map_add]
    simp only [RootReading.length_models_add_failures]
  · have herrors : x.report.errors = x.findings.countP Finding.isError := List.countP_map
    rw [herrors, Finding.countP_isError, hx, countP_isMalformedTable_findings]
    rfl
  · have hwarnings : x.report.warnings = x.findings.countP Finding.isWarning := List.countP_map
    rw [hwarnings, hx, countP_isWarning_findings]

end Extraction

/-- Four roots: the first with a mismatch and a class nobody describes, the second with a page that cannot
be read, the third with an interface instead of the class, the last with a malformed row. -/
def countedPages : FileTree :=
  .directory [("a", .directory [("constant-values.html", failingPages.page failingPages.constantsPage),
      failingPages.package failingPages.classPage]),
    ("b", .directory [failingPages.package ""]),
    ("c", .directory [failingPages.package failingPages.interfacePage]),
    ("d", .directory [("constant-values.html", failingPages.page malformedPage),
      failingPages.package failingPages.classPage])]
where
  malformedPage := "<hr><table><tr><td colspan=3>p.C<tr><td>int<td>X</table>"

/-- Each sort of error is there once, and so is the warning. -/
theorem run_report_accounts_of_countedPages :
    let c := { Config.default with roots := [⟨"a"⟩, ⟨"b"⟩, ⟨"c"⟩, ⟨"d"⟩] }
    ∃ x documents, Extraction.run countedPages c = .ok x ∧
      Extraction.collect countedPages c = .ok documents ∧
      x.report.documentsSeen = 4 ∧ x.report.documentsFailed = 1 ∧ x.report.documentsParsed = 3 ∧
      (x.report.classes = 1 ∧ x.report.merges = 1 ∧ x.report.mergeConflicts = 1) ∧
      x.report.constantMismatches = 1 ∧ documents.countP (·.hasMalformedTable countedPages) = 1 ∧
      x.report.errors = 4 ∧ (documents.map fun d => d.undescribed countedPages) = [["p.D"], [], [], []] ∧
      x.report.warnings = 1 ∧ x.report.hasErrors = true := by
  intro c
  let documents : List DocumentSet := [
    ⟨⟨"a"⟩, [⟨"a/p/C.html"⟩], some ⟨"a/constant-values.html"⟩⟩,
    ⟨⟨"b"⟩, [⟨"b/p/C.html"⟩], none⟩, ⟨⟨"c"⟩, [⟨"c/p/C.html"⟩], none⟩,
    ⟨⟨"d"⟩, [⟨"d/p/C.html"⟩], some ⟨"d/constant-values.html"⟩⟩]
  let x := Extraction.ofDocuments countedPages documents
  have hd : Extraction.collect countedPages c = .ok documents := by decide +kernel
  obtain ⟨hids, hfailed, hmerges, hconflicts, hmismatches, hmalformed, hundescribed, hclasses⟩ :
      x.registry.identities = ["p.C"] ∧ x.report.documentsFailed = 1 ∧ x.report.merges = 1 ∧
        x.report.mergeConflicts = 1 ∧ x.report.constantMismatches = 1 ∧
        documents.countP (·.hasMalformedTable countedPages) = 1 ∧
        (documents.map fun d => d.undescribed countedPages) = [["p.D"], [], [], []] ∧
        x.report.classes = 1 := by decide +kernel
  have hx : Extraction.run countedPages c = .ok x :=
    Extraction.run_eq_ok_of_distinctIds hd (hids ▸ by simp [DistinctIds])
  obtain ⟨found, hf, -, -, -, hseen, hparsed, -, herrors, hwarnings, hany⟩ :=
    Extraction.run_report_accounts hx
  rw [hd] at hf
  cases hf
  rw [hfailed, hconflicts, hmismatches, hmalformed] at herrors
  rw [hclasses, hmerges, hconflicts] at hparsed
  rw [hparsed, hfailed] at hseen
  have hone : (documents.map fun d => (d.undescribed countedPages).length).sum = 1 := by
    have hlengths : ((documents.map fun d => d.undescribed countedPages).map List.length).sum = 1 := by
      rw [hundescribed]
      rfl
    rw [List.map_map] at hlengths
    exact hlengths
  exact ⟨x, documents, hx, hd, hseen, hfailed, hparsed, ⟨hclasses, hmerges, hconflicts⟩, hmismatches,
    hmalformed, herrors, hundescribed, hwarnings.trans hone, hany.mpr (herrors ▸ by decide)⟩

end ApiDoc
