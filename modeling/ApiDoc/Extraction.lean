import ApiDoc.ClassModel.Merge
import ApiDoc.Config
import ApiDoc.ConstantTable
import ApiDoc.Page
import ApiDoc.Text.Utf8

/-!
# Extracting a registry

Every class page of every documentation root is read into a model, and the constants of the model
receive the values that the page of constants of its root gives.  The models of one class are
folded in the order of the roots and of the pages in a root; the results make up the registry.  A
page that cannot be read, and a model that conflicts with those before it, is left out and found
in the report.
-/

namespace ApiDoc

/-! ## Findings -/

/-- Why a class page is left out. -/
inductive DocumentError
  | unreadable (path : Path) (error : FileError)
  | malformed (path : Path) (error : PageError)
deriving DecidableEq

/-- Why a page of constants is not used. -/
inductive ConstantsError
  | unreadable (path : Path) (error : FileError)
  | malformed (path : Path) (error : MalformedRow)
deriving DecidableEq

/-- What is reported about a run. -/
inductive Finding
  | document (error : DocumentError)
  | constants (error : ConstantsError)
  /-- A page of constants names members that a class page does not declare. -/
  | disagreement (constants page : Path) (error : UnknownConstants)
  | conflict (conflict : MergeConflict)
  /-- A page of constants lists a class that no page of its root describes. -/
  | undescribed (constants : Path) (className : String) (root : Path)
deriving DecidableEq

/-- How grave a finding is. -/
inductive Severity
  | warning
  | error
deriving DecidableEq, Inhabited

namespace Severity

def name : Severity → String
  | .warning => "warning"
  | .error => "error"

end Severity

/-- What is said of a file that cannot be read. -/
def unreadableMessage (path : Path) (e : FileError) : String :=
  "failed to read " ++ path.text ++ ": " ++ e.message

namespace DocumentError

def message : DocumentError → String
  | .unreadable path e => unreadableMessage path e
  | .malformed path e => "skipped " ++ path.text ++ ": " ++ e.message

end DocumentError

namespace ConstantsError

def message : ConstantsError → String
  | .unreadable path e => unreadableMessage path e
  | .malformed path e => "ignored constants page " ++ path.text ++ ": " ++ e.message

end ConstantsError

namespace Finding

def severity : Finding → Severity
  | .undescribed _ _ _ => .warning
  | _ => .error

def message : Finding → String
  | .document e => e.message
  | .constants e => e.message
  | .disagreement listing page e =>
    "constants page " ++ listing.text ++ " disagrees with " ++ page.text ++ ": " ++ e.message
  | .conflict c => "merge conflict: " ++ c.message
  | .undescribed listing className root =>
    "constants page " ++ listing.text ++ " lists " ++ className ++ ", but no page under " ++
      root.text ++ " describes it"

/-- Whether a file counts as failed. -/
def isFailure : Finding → Bool
  | .document _ => true
  | .constants (.unreadable _ _) => true
  | _ => false

def isConflict : Finding → Bool
  | .conflict _ => true
  | _ => false

def isDisagreement : Finding → Bool
  | .disagreement _ _ _ => true
  | _ => false

end Finding

/-! ## Documents -/

/-- Reads the class a page declares. -/
def readDocument (fs : FileSystem) (path : Path) : Except DocumentError ClassDecl :=
  match fs.read path with
  | .error e => .error (.unreadable path e)
  | .ok bytes => (readClassPage (Text.decodeLossy bytes)).mapError (.malformed path)

/-- The model of the class a page declares. -/
def modelOfDocument (fs : FileSystem) (path : Path) : Except DocumentError ClassModel :=
  (readDocument fs path).map (·.freeze (some path))

/-- Reads a page of constants. -/
def readConstants (fs : FileSystem) (path : Path) : Except ConstantsError ConstantTable :=
  match fs.read path with
  | .error e => .error (.unreadable path e)
  | .ok bytes => (ConstantTable.ofPage (Text.decodeLossy bytes)).mapError (.malformed path)

/-! ## Roots -/

/-- A class page and what was read from it. -/
structure PageReading where
  path : Path
  decl : Except DocumentError ClassDecl

/-- A page of constants and what was read from it. -/
structure ConstantsReading where
  path : Path
  table : Except ConstantsError ConstantTable

/-- The pages of a root and what was read from them. -/
structure RootReading where
  root : Path
  constants : Option ConstantsReading
  pages : List PageReading

namespace RootReading

/-- Reads the pages of a root. -/
def ofDocuments (fs : FileSystem) (s : DocumentSet) : RootReading where
  root := s.root
  constants := s.constants.map fun p => ⟨p, readConstants fs p⟩
  pages := s.pages.map fun p => ⟨p, readDocument fs p⟩

/-- The page of constants and its values, if it could be read. -/
def table? (r : RootReading) : Option (Path × ConstantTable) :=
  r.constants.bind fun c => c.table.toOption.map fun t => (c.path, t)

/-- The values the root gives for the constants of a class. -/
def values? (r : RootReading) (className : String) : Option (Path × ConstantValues) :=
  r.table?.bind fun c => (c.2.get? className).map fun v => (c.1, v)

/-- The model with the values of the root. -/
def fill (r : RootReading) (m : ClassModel) : ClassModel :=
  match r.values? m.fullName with
  | some (_, values) => m.fill values
  | none => m

/-- The models of a page: one, or none if it cannot be read. -/
def modelsOfPage (r : RootReading) (p : PageReading) : List ClassModel :=
  match p.decl with
  | .ok d => [r.fill (d.freeze (some p.path))]
  | .error _ => []

/-- The models of the classes of a root. -/
def models (r : RootReading) : List ClassModel := r.pages.flatMap r.modelsOfPage

/-- What is found about the page of constants itself. -/
def constantsFindings (r : RootReading) : List Finding :=
  match r.constants with
  | some ⟨_, .error e⟩ => [.constants e]
  | _ => []

/-- What is found about a page. -/
def pageFindings (r : RootReading) (p : PageReading) : List Finding :=
  match p.decl with
  | .error e => [.document e]
  | .ok d =>
    match r.values? d.fullName with
    | none => []
    | some (constants, values) =>
      match (d.freeze (some p.path)).unknownConstants? values with
      | some e => [.disagreement constants p.path e]
      | none => []

/-- The classes the page of constants lists that no page describes. -/
def undescribedFindings (r : RootReading) : List Finding :=
  match r.table? with
  | none => []
  | some (constants, table) =>
    let described := r.models.map (·.fullName)
    (table.keys.filter (!described.contains ·)).map fun c => .undescribed constants c r.root

/-- What is found about the documents of a root. -/
def findings (r : RootReading) : List Finding :=
  r.constantsFindings ++ r.pages.flatMap r.pageFindings ++ r.undescribedFindings

end RootReading

/-! ## Reports -/

structure Diagnostic where
  severity : Severity
  message : String
deriving DecidableEq

/-- Counts and diagnostics of a run. -/
structure Report where
  roots : Nat
  documentsSeen : Nat
  documentsParsed : Nat
  documentsFailed : Nat
  classes : Nat
  merges : Nat
  mergeConflicts : Nat
  constantMismatches : Nat
  diagnostics : List Diagnostic
deriving DecidableEq

namespace Report

/-- Whether there was an error; warnings do not count. -/
def hasErrors (r : Report) : Bool := r.diagnostics.any (·.severity == .error)

/-- The report for people. -/
def print (r : Report) : String :=
  toString r.classes ++ " classes from " ++ toString r.documentsParsed ++ " documents in " ++
    toString r.roots ++ " roots (" ++ toString r.documentsFailed ++ " failed)\n" ++
    toString r.merges ++ " merges, " ++ toString r.mergeConflicts ++ " merge conflicts, " ++
    toString r.constantMismatches ++ " constant mismatches\n" ++
    String.join (r.diagnostics.map fun d => d.severity.name ++ ": " ++ d.message ++ "\n")

def toJson (r : Report) : Json :=
  .object [
    ("roots", .number r.roots),
    ("documents_seen", .number r.documentsSeen),
    ("documents_parsed", .number r.documentsParsed),
    ("documents_failed", .number r.documentsFailed),
    ("classes", .number r.classes),
    ("merges", .number r.merges),
    ("merge_conflicts", .number r.mergeConflicts),
    ("constant_mismatches", .number r.constantMismatches),
    ("diagnostics", .array (r.diagnostics.map fun d => .object [
      ("severity", .string d.severity.name),
      ("message", .string d.message)]))]

end Report

/-! ## Runs -/

/-- What was read from every root. -/
structure Extraction where
  roots : List RootReading

/-- Why a run gives no registry. -/
inductive FatalError
  | missingRoot (error : MissingRoot)
  | collision (error : IdentityCollision)
deriving DecidableEq

namespace FatalError

def message : FatalError → String
  | .missingRoot e => e.message
  | .collision e => e.message

end FatalError

namespace Extraction

/-- The models of all pages, in the order of the roots and of the pages in a root. -/
def models (x : Extraction) : List ClassModel := x.roots.flatMap RootReading.models

/-- The full names of the classes in ascending order. -/
def classNames (x : Extraction) : List String :=
  (OrderedSet.ofList (x.models.map (·.fullName))).toList

/-- Folds the models of a class. -/
def foldClass (x : Extraction) (name : String) : FoldOutcome :=
  foldModels (x.models.filter (·.fullName == name))

/-- The outcome for each class, in the order of the names. -/
def folds (x : Extraction) : List FoldOutcome := x.classNames.map x.foldClass

def registry (x : Extraction) : Registry := .ofList (x.folds.filterMap (·.model))

/-- What is found about the merging of classes. -/
def conflictFindings (x : Extraction) : List Finding :=
  x.folds.flatMap fun o => o.conflicts.map .conflict

/-- All findings, in the order in which they are reported. -/
def findings (x : Extraction) : List Finding :=
  x.roots.flatMap RootReading.findings ++ x.conflictFindings

def report (x : Extraction) : Report :=
  let found := x.findings
  { roots := x.roots.length
    documentsSeen := x.roots.foldl (fun n r => n + r.pages.length) 0
    documentsParsed := x.models.length
    documentsFailed := found.countP Finding.isFailure
    classes := x.registry.size
    merges := x.folds.foldl (fun n o => n + o.merges) 0
    mergeConflicts := found.countP Finding.isConflict
    constantMismatches := found.countP Finding.isDisagreement
    diagnostics := found.map fun f => ⟨f.severity, f.message⟩ }

/-- The documents of every root of a configuration. -/
def collect (fs : FileSystem) (c : Config) : Except MissingRoot (List DocumentSet) :=
  c.roots.mapM (DocumentSet.collect fs c.selection c.reading.constantsFile)

/-- Reads the documentation in a tree of files.  Every root has to be there, and no two identities
in the registry may share an id. -/
def run (fs : FileSystem) (c : Config) : Except FatalError Extraction := do
  let documents ← (collect fs c).mapError .missingRoot
  let x : Extraction := ⟨documents.map (RootReading.ofDocuments fs)⟩
  match x.registry.collision? with
  | some e => throw (.collision e)
  | none => return x

end Extraction

end ApiDoc
