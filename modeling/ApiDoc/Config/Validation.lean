import ApiDoc.Log.Settings

/-!
# Checking a configuration

Some settings make a run impossible, others are accepted but probably not what was meant.
-/

namespace ApiDoc

/-- A setting that makes a run impossible. -/
inductive ConfigFault
  | noRoots
  | emptyConstantsFile
deriving DecidableEq

namespace ConfigFault

def message : ConfigFault → String
  | .noRoots => "no documentation roots configured"
  | .emptyConstantsFile => "extraction.constants_file must not be empty"

end ConfigFault

/-- A setting that is probably not what was meant. -/
inductive ConfigDoubt
  | duplicateRoot (root : Path)
  | invalidLevel (level : String)
deriving DecidableEq

namespace ConfigDoubt

def message : ConfigDoubt → String
  | .duplicateRoot root => "documentation root " ++ root.text ++ " is listed more than once"
  | .invalidLevel level =>
    "logging.level " ++ Text.quoted level ++ " is not a valid filter; using info"

end ConfigDoubt

/-- The roots that are the same as one before them in the list. -/
def duplicateRoots (roots : List Path) : List Path :=
  roots.zipIdx.filterMap fun (root, i) =>
    if (roots.take i).any (Path.same root) then some root else none

namespace Config

/-- What makes a run impossible. -/
def faults (c : Config) : List ConfigFault :=
  (if c.roots.isEmpty then [.noRoots] else []) ++
    if (Text.trim c.reading.constantsFile.toList).isEmpty then [.emptyConstantsFile] else []

/-- What is probably not meant. -/
def doubts (c : Config) : List ConfigDoubt :=
  (duplicateRoots c.roots).map .duplicateRoot ++
    match LogFilter.parse? (LogSettings.directives c.logging.level) with
    | some _ => []
    | none => [.invalidLevel c.logging.level]

end Config

end ApiDoc
