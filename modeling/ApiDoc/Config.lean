import ApiDoc.Output
import ApiDoc.Selection

/-!
# Configuration of a run

A configuration names the documentation roots and says which documents are read, how the run is
logged and where the registry is written.  Every setting has a default.
-/

namespace ApiDoc

/-- How the documents of a root are read. -/
structure ReadingSettings where
  /-- The page of constants, as a path in the root. -/
  constantsFile : String
  /-- How many pages are read side by side; 0 leaves the number open.  No result depends on it. -/
  threads : Nat
deriving DecidableEq

/-- Where the log goes and what it contains. -/
structure LogSettings where
  /-- A level, or the directives of a filter. -/
  level : String
  json : Bool
  stderr : Bool
  /-- The log is also written to the end of this file. -/
  file : Option Path
deriving DecidableEq

/-- How and where the registry is written. -/
structure OutputSettings where
  format : OutputFormat
  /-- Standard output if absent. -/
  path : Option Path
deriving DecidableEq

structure Config where
  /-- The documentation roots in the order in which they are merged. -/
  roots : List Path
  selection : Selection
  reading : ReadingSettings
  logging : LogSettings
  output : OutputSettings
deriving DecidableEq

namespace ReadingSettings

def default : ReadingSettings := ⟨"constant-values.html", 0⟩

instance : Inhabited ReadingSettings := ⟨default⟩

end ReadingSettings

namespace LogSettings

def default : LogSettings := ⟨"info", false, true, none⟩

instance : Inhabited LogSettings := ⟨default⟩

end LogSettings

namespace OutputSettings

def default : OutputSettings := ⟨.json, none⟩

instance : Inhabited OutputSettings := ⟨default⟩

end OutputSettings

namespace Config

def default : Config := ⟨[], .default, .default, .default, .default⟩

instance : Inhabited Config := ⟨default⟩

/-- Roots that are no absolute paths are seen from a directory. -/
def rootsFrom (c : Config) (base : Path) : Config := { c with roots := c.roots.map base.join }

end Config

end ApiDoc
