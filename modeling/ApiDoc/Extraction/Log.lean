import ApiDoc.Extraction
import ApiDoc.Log.Event

/-!
# The log of a run

The events of a run in the order in which the work is done: the documents of the roots are
collected, the pages of each root are read, the models of each class are merged.
-/

namespace ApiDoc

/-- The target of events about the run. -/
def runTarget : String := "jdoc.extract"

/-- The target of events about single pages. -/
def pageTarget : String := "jdoc.javadoc"

/-- The target of events about merging. -/
def mergeTarget : String := "jdoc.merge"

/-! ## Merging -/

/-- A value of a constant that an earlier value takes precedence over. -/
structure ConstantClash where
  name : String
  kept : String
  dropped : String
deriving DecidableEq

/-- The clash of a constant with the entry that absorbs it. -/
def clashWith (entries : List Constant) (c : Constant) : Option ConstantClash :=
  match entries.find? (constantAbsorption.same · c) with
  | none => none
  | some entry =>
    match entry.value, c.value with
    | some kept, some dropped => if kept = dropped then none else some ⟨entry.name, kept, dropped⟩
    | _, _ => none

/-- The clashes that come up when constants are added to entries in order. -/
def constantClashes (entries : List Constant) : List Constant → List ConstantClash
  | [] => []
  | c :: r => (clashWith entries c).toList ++ constantClashes (constantAbsorption.add c entries) r

namespace ConstantClash

def event (className : String) (c : ConstantClash) : LogEvent :=
  ⟨.warn, mergeTarget, "conflicting constant values; keeping the earlier one", [
    ("class", .quoted className),
    ("constant", .plain c.name),
    ("kept", .plain c.kept),
    ("dropped", .plain c.dropped)]⟩

end ConstantClash

namespace ClassDecl

/-- The events of freezing a class. -/
def freezeEvents (d : ClassDecl) : List LogEvent :=
  (constantClashes [] d.constants).map (·.event d.fullName)

end ClassDecl

namespace ClassModel

/-- The event of taking a final and a regular class for a regular one. -/
def kindEvents (a b : ClassModel) : List LogEvent :=
  match mergeKind a.fullName a.kind b.kind with
  | .ok _ =>
    if a.kind = b.kind then []
    else [⟨.debug, mergeTarget, "final/regular kind mismatch resolved to regular", [
      ("class", .quoted a.fullName),
      ("left", .plain a.kind.debugText),
      ("right", .plain b.kind.debugText)]⟩]
  | .error _ => []

/-- The events of merging two models. -/
def mergeEvents (a b : ClassModel) : List LogEvent :=
  if a.fullName ≠ b.fullName then []
  else
    a.kindEvents b ++
      match a.merge b with
      | .ok _ => (constantClashes [] (a.constants ++ b.constants)).map (·.event a.fullName)
      | .error _ => []

end ClassModel

/-- The events of folding models, after those that led to an outcome. -/
def foldEvents (o : FoldOutcome) : List ClassModel → List LogEvent
  | [] => []
  | m :: r => (o.model.elim [] fun acc => acc.mergeEvents m) ++ foldEvents (o.add m) r

/-! ## Findings -/

namespace Finding

/-- A finding is logged when it is reported. -/
def event (f : Finding) : LogEvent :=
  match f with
  | .document _ => ⟨.warn, runTarget, f.message, []⟩
  | .constants (.unreadable _ _) => ⟨.warn, runTarget, f.message, []⟩
  | .constants (.malformed _ _) => ⟨.error, runTarget, f.message, []⟩
  | .disagreement _ _ _ => ⟨.error, runTarget, f.message, []⟩
  | .conflict _ => ⟨.error, mergeTarget, f.message, []⟩
  | .undescribed _ _ _ => ⟨.warn, runTarget, f.message, []⟩

end Finding

/-! ## Documents -/

namespace DocumentSet

def event (s : DocumentSet) : LogEvent :=
  ⟨.debug, runTarget, "collected documents", [
    ("root", .plain s.root.text),
    ("pages", .number s.pages.length),
    ("constants", .bool s.constants.isSome)]⟩

end DocumentSet

namespace PageReading

/-- The events of reading a page. -/
def events (p : PageReading) : List LogEvent :=
  match p.decl with
  | .error _ => []
  | .ok d => [
      ⟨.debug, pageTarget, "parsed class page", [
        ("class", .plain d.fullName),
        ("fields", .number d.fields.length),
        ("constructors", .number d.constructors.length),
        ("methods", .number d.methods.length)]⟩,
      ⟨.debug, runTarget, "parsed class page", [
        ("path", .plain p.path.text),
        ("class", .plain d.fullName)]⟩] ++ d.freezeEvents

end PageReading

namespace RootReading

/-- The events of reading the page of constants. -/
def constantsEvents (r : RootReading) : List LogEvent :=
  match r.constants with
  | some ⟨_, .ok t⟩ => [⟨.debug, pageTarget, "parsed constants page", [("classes", .number t.size)]⟩]
  | _ => []

/-- The events of reading the documents of a root. -/
def events (r : RootReading) : List LogEvent :=
  r.constantsEvents ++ r.constantsFindings.map Finding.event ++ r.pages.flatMap PageReading.events ++
    (r.pages.flatMap r.pageFindings ++ r.undescribedFindings).map Finding.event

end RootReading

/-! ## Runs -/

namespace Extraction

/-- The events of collecting the documents of roots, up to the first one that is missing. -/
def collectEvents (fs : FileSystem) (c : Config) : List Path → List LogEvent
  | [] => []
  | root :: r =>
    match DocumentSet.collect fs c.selection c.reading.constantsFile root with
    | .ok s => s.event :: collectEvents fs c r
    | .error _ => []

/-- The events of reading and merging. -/
def events (x : Extraction) : List LogEvent :=
  x.roots.flatMap RootReading.events ++
    x.classNames.flatMap (fun n => foldEvents .start (x.models.filter (·.fullName == n))) ++
    x.conflictFindings.map Finding.event

/-- The event of the end of a run. -/
def endEvent (x : Extraction) : LogEvent :=
  let report := x.report
  ⟨.info, runTarget, "extraction finished", [
    ("classes", .number report.classes),
    ("documents", .number report.documentsParsed),
    ("failed", .number report.documentsFailed),
    ("merges", .number report.merges),
    ("conflicts", .number report.mergeConflicts)]⟩

end Extraction

end ApiDoc
