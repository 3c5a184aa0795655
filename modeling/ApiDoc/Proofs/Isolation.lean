import ApiDoc.Proofs.Runs

/-!
# Pages that cannot be read

A page that cannot be read leaves one error in the findings and nothing else.  So a run over the
documents without such pages gives the same registry, the same merges and conflicts and the same
disagreements with the pages of constants, and its findings are those of the full run without these
errors, in the same order (`run_isolates_failures`).
-/

namespace ApiDoc

/-! ## Leaving out items that add nothing -/

/-- Items that add nothing can be left out. -/
theorem flatMap_filter_of_nil {α β : Type} {p : α → Bool} {f : α → List β} {l : List α}
    (h : ∀ a ∈ l, p a = false → f a = []) : (l.filter p).flatMap f = l.flatMap f := by
  induction l with
  | nil => rfl
  | cons a r ih =>
    obtain ⟨ha, hr⟩ := List.forall_mem_cons.mp h
    cases hp : p a with
    | true => rw [List.filter_cons_of_pos hp, List.flatMap_cons, List.flatMap_cons, ih hr]
    | false =>
      rw [List.filter_cons_of_neg (by simp [hp]), List.flatMap_cons, ha hp, ih hr, List.nil_append]

/-! ## Findings -/

namespace Finding

/-- The error of a page that a finding reports. -/
def document? : Finding → Option DocumentError
  | .document e => some e
  | _ => none

/-- What is said of a finding in the report. -/
def diagnostic (f : Finding) : Diagnostic := ⟨f.severity, f.message⟩

/-- Findings of other sorts stay when the errors of pages go. -/
theorem filter_document?_of_forall {l : List Finding} (h : ∀ f ∈ l, f.document? = none) :
    l.filter (·.document?.isNone) = l := by
  refine List.filter_eq_self.mpr fun f hf => ?_
  rw [h f hf]
  rfl

end Finding

/-! ## One root -/

/-- The document set without the pages that cannot be read. -/
def DocumentSet.withoutFailing (fs : FileSystem) (d : DocumentSet) : DocumentSet :=
  { d with pages := d.pages.filter fun p => (readDocument fs p).isOk }

/-- The errors of the pages that cannot be read. -/
def DocumentSet.failures (fs : FileSystem) (d : DocumentSet) : List DocumentError :=
  d.pages.filterMap fun p => match readDocument fs p with
    | .error e => some e
    | .ok _ => none

namespace RootReading

/-- The reading without the pages that cannot be read. -/
def withoutFailing (r : RootReading) : RootReading :=
  { r with pages := r.pages.filter fun p => p.decl.isOk }

theorem ofDocuments_withoutFailing (fs : FileSystem) (d : DocumentSet) :
    ofDocuments fs (d.withoutFailing fs) = (ofDocuments fs d).withoutFailing := by
  unfold ofDocuments withoutFailing DocumentSet.withoutFailing
  rw [List.filter_map]
  rfl

variable (r : RootReading)

theorem models_withoutFailing : r.withoutFailing.models = r.models := by
  refine flatMap_filter_of_nil fun p _ hp => ?_
  unfold modelsOfPage
  cases hd : p.decl with
  | ok d => simp [hd, Except.isOk, Except.toBool] at hp
  | error e => rfl

theorem undescribedFindings_withoutFailing :
    r.withoutFailing.undescribedFindings = r.undescribedFindings := by
  unfold undescribedFindings
  rw [models_withoutFailing]
  rfl

/-! ### Errors of pages among the findings -/

theorem document?_of_mem_constantsFindings : ∀ f ∈ r.constantsFindings, f.document? = none := by
  intro f hf
  obtain ⟨c, e, -, -, rfl⟩ := exists_of_mem_constantsFindings hf
  rfl

theorem document?_of_mem_undescribedFindings :
    ∀ f ∈ r.undescribedFindings, f.document? = none := by
  intro f hf
  obtain ⟨c, name, rfl⟩ := exists_of_mem_undescribedFindings hf
  rfl

/-- A page that can be read adds no such error. -/
theorem document?_of_mem_pageFindings {p : PageReading} (hp : p.decl.isOk = true) :
    ∀ f ∈ r.pageFindings p, f.document? = none := by
  intro f hf
  rcases exists_of_mem_pageFindings hf with ⟨e, he, rfl⟩ | ⟨c, e, rfl⟩
  · rw [he] at hp
    cases hp
  · rfl

/-- A page that cannot be read adds its error alone. -/
theorem pageFindings_of_error {p : PageReading} {e : DocumentError} (hp : p.decl = .error e) :
    r.pageFindings p = [.document e] := by
  unfold pageFindings
  rw [hp]

theorem pageFindings_withoutFailing :
    r.withoutFailing.pages.flatMap r.pageFindings =
      (r.pages.flatMap r.pageFindings).filter (·.document?.isNone) := by
  rw [List.filter_flatMap]
  have hfailing : ∀ p ∈ r.pages, p.decl.isOk = false →
      (r.pageFindings p).filter (·.document?.isNone) = [] := by
    intro p _ hp
    cases hd : p.decl with
    | ok d =>
      rw [hd] at hp
      cases hp
    | error e =>
      rw [r.pageFindings_of_error hd]
      rfl
  rw [← flatMap_filter_of_nil hfailing]
  refine List.flatMap_congr fun p hp => ?_
  have hok := (List.mem_filter.mp hp).2
  exact (Finding.filter_document?_of_forall (r.document?_of_mem_pageFindings hok)).symm

/-- Without the failing pages, the findings are those of all pages without their errors. -/
theorem findings_withoutFailing :
    r.withoutFailing.findings = r.findings.filter (·.document?.isNone) := by
  have hconstants := Finding.filter_document?_of_forall r.document?_of_mem_constantsFindings
  have hundescribed := Finding.filter_document?_of_forall r.document?_of_mem_undescribedFindings
  show r.constantsFindings ++ r.withoutFailing.pages.flatMap r.pageFindings ++
    r.withoutFailing.undescribedFindings = _
  unfold findings
  rw [List.filter_append, List.filter_append, hconstants, hundescribed,
    undescribedFindings_withoutFailing, pageFindings_withoutFailing]

/-- The errors of the failing pages are found one by one in the order of the pages. -/
theorem filterMap_document?_findings (fs : FileSystem) (d : DocumentSet) :
    (ofDocuments fs d).findings.filterMap Finding.document? = d.failures fs := by
  have hpage : ∀ path, ((ofDocuments fs d).pageFindings ⟨path, readDocument fs path⟩).filterMap
      Finding.document? = (match readDocument fs path with
        | .error e => some e
        | .ok _ => none).toList := by
    intro path
    cases hd : readDocument fs path with
    | error e =>
      rw [pageFindings_of_error _ rfl]
      rfl
    | ok decl =>
      exact List.filterMap_eq_nil_iff.mpr (document?_of_mem_pageFindings _ rfl)
  have hconstants := List.filterMap_eq_nil_iff.mpr
    (document?_of_mem_constantsFindings (ofDocuments fs d))
  have hundescribed := List.filterMap_eq_nil_iff.mpr
    (document?_of_mem_undescribedFindings (ofDocuments fs d))
  unfold findings
  rw [List.filterMap_append, List.filterMap_append, hconstants, hundescribed, List.append_nil,
    List.nil_append, List.filterMap_flatMap]
  show (d.pages.map fun path => (⟨path, readDocument fs path⟩ : PageReading)).flatMap _ = _
  rw [List.flatMap_map, DocumentSet.failures, List.filterMap_eq_flatMap_toList]
  exact List.flatMap_congr fun path _ => hpage path

end RootReading

/-! ## Runs -/

namespace Extraction

variable (x : Extraction)

/-- The extraction without the pages that cannot be read. -/
def withoutFailing : Extraction := ⟨x.roots.map RootReading.withoutFailing⟩

theorem ofDocuments_withoutFailing (fs : FileSystem) (documents : List DocumentSet) :
    ofDocuments fs (documents.map (·.withoutFailing fs)) =
      (ofDocuments fs documents).withoutFailing := by
  unfold ofDocuments withoutFailing
  simp only [List.map_map, Extraction.mk.injEq]
  exact List.map_congr_left fun d _ => RootReading.ofDocuments_withoutFailing fs d

theorem models_withoutFailing : x.withoutFailing.models = x.models := by
  unfold models withoutFailing
  rw [List.flatMap_map]
  exact List.flatMap_congr fun r _ => r.models_withoutFailing

/-- What is merged is the same. -/
theorem folds_withoutFailing : x.withoutFailing.folds = x.folds := by
  unfold folds classNames foldClass
  rw [models_withoutFailing]

theorem registry_withoutFailing : x.withoutFailing.registry = x.registry := by
  unfold registry
  rw [folds_withoutFailing]

theorem document?_of_mem_conflictFindings : ∀ f ∈ x.conflictFindings, f.document? = none := by
  intro f hf
  obtain ⟨o, -, hf⟩ := List.mem_flatMap.mp hf
  obtain ⟨c, -, rfl⟩ := List.mem_map.mp hf
  rfl

theorem findings_withoutFailing :
    x.withoutFailing.findings = x.findings.filter (·.document?.isNone) := by
  have hconflicts := Finding.filter_document?_of_forall x.document?_of_mem_conflictFindings
  have hsame : x.withoutFailing.conflictFindings = x.conflictFindings := by
    unfold conflictFindings
    rw [folds_withoutFailing]
  have hroots : x.withoutFailing.roots.flatMap RootReading.findings =
      x.roots.flatMap fun r => r.findings.filter (·.document?.isNone) := by
    unfold withoutFailing
    rw [List.flatMap_map]
    exact List.flatMap_congr fun r _ => r.findings_withoutFailing
  unfold findings
  rw [List.filter_append, List.filter_flatMap, hconflicts, hsame, hroots]

/-- Findings of any sort but the errors of pages are counted as before. -/
theorem countP_findings_withoutFailing {p : Finding → Bool}
    (hp : ∀ f, p f = true → f.document? = none) :
    x.withoutFailing.findings.countP p = x.findings.countP p := by
  rw [findings_withoutFailing, List.countP_filter]
  refine List.countP_congr fun f _ => ?_
  rw [Bool.and_eq_true, and_iff_left_iff_imp]
  intro h
  rw [hp f h]
  rfl

theorem filterMap_document?_findings (fs : FileSystem) (documents : List DocumentSet) :
    (ofDocuments fs documents).findings.filterMap Finding.document? =
      documents.flatMap (·.failures fs) := by
  have hconflicts := List.filterMap_eq_nil_iff.mpr
    (document?_of_mem_conflictFindings (ofDocuments fs documents))
  unfold findings
  rw [List.filterMap_append, hconflicts, List.append_nil, List.filterMap_flatMap]
  show (documents.map (RootReading.ofDocuments fs)).flatMap _ = _
  rw [List.flatMap_map]
  exact List.flatMap_congr fun d _ => RootReading.filterMap_document?_findings fs d

variable {fs : FileSystem} {c : Config}

/-- Where every root is a directory and the ids are distinct, a run gives what the run without the
failing pages gives, and the errors of these pages besides. -/
theorem run_isolates_failures (hroots : ∀ root ∈ c.roots, fs.hasDirectory root = true)
    (hids : ∀ documents, collect fs c = .ok documents →
      DistinctIds (ofDocuments fs documents).registry.identities) :
    ∃ documents x y, collect fs c = .ok documents ∧ run fs c = .ok x ∧
      runDocuments fs (documents.map (·.withoutFailing fs)) = .ok y ∧
      y.registry = x.registry ∧ y.report.merges = x.report.merges ∧
      y.report.mergeConflicts = x.report.mergeConflicts ∧
      y.report.constantMismatches = x.report.constantMismatches ∧
      x.findings.filterMap Finding.document? = documents.flatMap (·.failures fs) ∧
      x.report.diagnostics = x.findings.map Finding.diagnostic ∧
      y.report.diagnostics = (x.findings.filter (·.document?.isNone)).map Finding.diagnostic := by
  obtain ⟨documents, hd⟩ := exists_collect_iff.mpr hroots
  have hdistinct := hids documents hd
  have hx : run fs c = .ok (ofDocuments fs documents) := by
    rw [run_of_collect hd]
    exact runDocuments_eq_ok_iff.mpr ⟨rfl, hdistinct⟩
  have hregistry := (ofDocuments fs documents).registry_withoutFailing
  have hy : runDocuments fs (documents.map (·.withoutFailing fs)) =
      .ok (ofDocuments fs documents).withoutFailing := by
    refine runDocuments_eq_ok_iff.mpr ⟨(ofDocuments_withoutFailing fs documents).symm, ?_⟩
    rwa [hregistry]
  refine ⟨documents, _, _, hd, hx, hy, hregistry, ?_, ?_, ?_,
    filterMap_document?_findings fs documents, rfl, ?_⟩
  · show (ofDocuments fs documents).withoutFailing.folds.foldl (fun n o => n + o.merges) 0 = _
    rw [folds_withoutFailing]
    rfl
  · refine countP_findings_withoutFailing _ fun f hf => ?_
    cases f with
    | document e => cases hf
    | _ => rfl
  · refine countP_findings_withoutFailing _ fun f hf => ?_
    cases f with
    | document e => cases hf
    | _ => rfl
  · show (ofDocuments fs documents).withoutFailing.findings.map _ = _
    rw [findings_withoutFailing]
    rfl

end Extraction

/-- Two roots that declare one class as a class and as an interface, and two whose page cannot be
read.  A page of constants lists a constant the class does not have, and a class nobody declares. -/
def failingPages : FileTree :=
  .directory [("a", .directory [("constant-values.html", page constantsPage), package classPage]),
    ("b", .directory [package ""]), ("c", .directory [package interfacePage]),
    ("d", .directory [package "<h2><b>p</b>C</h2>"])]
where
  page (text : String) : FileTree := .file text.toUTF8.toList
  package (text : String) : String × FileTree := ("p", .directory [("C.html", page text)])
  classPage := "<h2><b>p</b>C</h2><hr><dl>class C</dl>"
  interfacePage := "<h2><b>p</b>C</h2><hr><dl>interface C</dl>"
  constantsPage :=
    "<hr><table><tr><td colspan=3>p.C<tr><td>int<td>X<td>1</table>" ++
      "<table><tr><td colspan=3>p.D<tr><td>int<td>Y<td>2</table>"

/-- Of five findings the two errors of the failing pages go; the disagreement, the warning and the
conflict stay. -/
theorem run_isolates_failures_of_failingPages :
    let c := { Config.default with roots := [⟨"a"⟩, ⟨"b"⟩, ⟨"c"⟩, ⟨"d"⟩] }
    ∃ documents x y, Extraction.collect failingPages c = .ok documents ∧
      Extraction.run failingPages c = .ok x ∧
      Extraction.runDocuments failingPages (documents.map (·.withoutFailing failingPages)) = .ok y ∧
      documents.map (fun d => (d.withoutFailing failingPages).pages) =
        [[⟨"a/p/C.html"⟩], [], [⟨"c/p/C.html"⟩], []] ∧
      (x.findings.length = 5 ∧ x.report.mergeConflicts = 1 ∧ x.report.constantMismatches = 1) ∧
      y.registry = x.registry ∧ y.report.mergeConflicts = 1 ∧ y.report.constantMismatches = 1 ∧
      y.report.diagnostics = (x.findings.filter (·.document?.isNone)).map Finding.diagnostic := by
  intro c
  let documents : List DocumentSet := [
    ⟨⟨"a"⟩, [⟨"a/p/C.html"⟩], some ⟨"a/constant-values.html"⟩⟩,
    ⟨⟨"b"⟩, [⟨"b/p/C.html"⟩], none⟩, ⟨⟨"c"⟩, [⟨"c/p/C.html"⟩], none⟩,
    ⟨⟨"d"⟩, [⟨"d/p/C.html"⟩], none⟩]
  have hd : Extraction.collect failingPages c = .ok documents := by decide +kernel
  have hkept : documents.map (fun d => (d.withoutFailing failingPages).pages) =
      [[⟨"a/p/C.html"⟩], [], [⟨"c/p/C.html"⟩], []] := by decide +kernel
  obtain ⟨hidentities, hcounts⟩ :
      (Extraction.ofDocuments failingPages documents).registry.identities = ["p.C"] ∧
        ((Extraction.ofDocuments failingPages documents).findings.length = 5 ∧
          (Extraction.ofDocuments failingPages documents).report.mergeConflicts = 1 ∧
          (Extraction.ofDocuments failingPages documents).report.constantMismatches = 1) := by
    decide +kernel
  have hids : ∀ found, Extraction.collect failingPages c = .ok found →
      DistinctIds (Extraction.ofDocuments failingPages found).registry.identities := by
    intro found hf
    rw [hd] at hf
    cases hf
    rw [hidentities]
    simp [DistinctIds]
  obtain ⟨found, x, y, hf, hx, hy, hregistry, -, hconflicts, hmismatches, -, -, hdiagnostics⟩ :=
    Extraction.run_isolates_failures (Extraction.exists_collect_iff.mp ⟨_, hd⟩) hids
  rw [hd] at hf
  cases hf
  obtain ⟨rfl, -⟩ := Extraction.runDocuments_eq_ok_iff.mp (Extraction.run_of_collect hd ▸ hx)
  exact ⟨documents, _, y, hd, hx, hy, hkept, hcounts, hregistry, hconflicts.trans hcounts.2.1,
    hmismatches.trans hcounts.2.2, hdiagnostics⟩

end ApiDoc
