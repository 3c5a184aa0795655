import ApiDoc.FileTree
import ApiDoc.Path

/-!
# File systems

A program sees one tree of files and works at a place in it, its working directory.  An absolute path
leads from the top of the tree, any other one from the working directory; each of its parts but the
last has to be a directory, and `..` leads back up, which at the top leads nowhere.
-/

namespace ApiDoc

/-- Why a file cannot be used. -/
inductive FileError
  | notFound
  | alreadyExists
  | notDirectory
  | isDirectory
  | nameTooLong
  | nulInName
  | invalidUtf8
deriving DecidableEq, Inhabited

namespace FileError

def message : FileError → String
  | .notFound => "No such file or directory (os error 2)"
  | .alreadyExists => "File exists (os error 17)"
  | .notDirectory => "Not a directory (os error 20)"
  | .isDirectory => "Is a directory (os error 21)"
  | .nameTooLong => "File name too long (os error 36)"
  | .nulInName => "file name contained an unexpected NUL byte"
  | .invalidUtf8 => "stream did not contain valid UTF-8"

end FileError

/-! ## Parts of paths -/

namespace FileTree

/-- How many bytes a name can have. -/
def longestName : Nat := 255

/-- The place reached from the place `names` by the parts of a path.  It exists. -/
def follow (t : FileTree) (names : List String) : List (List Char) → Except FileError (List String)
  | [] => .ok names
  | part :: r =>
    match t.entry names with
    | none => .error .notFound
    | some (.file _) => .error .notDirectory
    | some (.directory entries) =>
      if part = [] ∨ part = ['.'] then t.follow names r
      else if part = ['.', '.'] then t.follow names.dropLast r
      else
        let name := String.ofList part
        if longestName < name.utf8ByteSize then .error .nameTooLong
        else if (entries.lookup name).isSome then t.follow (names ++ [name]) r
        else .error .notFound

/-- Makes the directories that the parts of a path lead through, as far as it can; what was made
before a failure stays.  `made` says that a directory was made already: from then on directories are
made one by one, and a file in the way is one that exists at the end of a path. -/
def makeDirectories (t : FileTree) (made : Bool) (names : List String) :
    List (List Char) → FileTree × Option FileError
  | [] => (t, none)
  | part :: r =>
    match t.entry names with
    | none => (t, some .notFound)
    | some (.file _) => (t, some .notDirectory)
    | some (.directory entries) =>
      if part = [] ∨ part = ['.'] then t.makeDirectories made names r
      else if part = ['.', '.'] then t.makeDirectories made names.dropLast r
      else
        let name := String.ofList part
        let place := names ++ [name]
        if longestName < name.utf8ByteSize then (t, some .nameTooLong)
        else
          match entries.lookup name with
          | some (.directory _) => t.makeDirectories made place r
          | some (.file _) =>
            (t, some (if made || r.all (·.isEmpty) then .alreadyExists else .notDirectory))
          | none => (t.put place (.directory [])).makeDirectories true place r

end FileTree

/-- A tree of files and the place in it where a program works. -/
structure FileSystem where
  tree : FileTree
  /-- The working directory. -/
  current : List String
deriving Inhabited

/-- A tree alone is worked in at its top. -/
instance : Coe FileTree FileSystem := ⟨fun t => ⟨t, []⟩⟩

/-- What there is to see of a file system is its tree. -/
instance : CoeOut FileSystem FileTree := ⟨FileSystem.tree⟩

namespace FileSystem

/-! ## Reading -/

/-- How many bytes a path can have. -/
def longestPath : Nat := 4095

/-- The parts of a path, if it is one that can be looked up. -/
def lookupParts (p : Path) : Except FileError (List (List Char)) :=
  if p.text.toList.contains '\x00' then .error .nulInName
  else if p.text.isEmpty then .error .notFound
  else if longestPath < p.text.utf8ByteSize then .error .nameTooLong
  else .ok p.parts

/-- The place where a path starts. -/
def start (fs : FileSystem) (p : Path) : List String := if p.isAbsolute then [] else fs.current

/-- The tree a path leads to. -/
def lookup (fs : FileSystem) (p : Path) : Except FileError FileTree := do
  let names ← fs.tree.follow (fs.start p) (← lookupParts p)
  match fs.tree.entry names with
  | some t => return t
  | none => throw .notFound

def hasDirectory (fs : FileSystem) (p : Path) : Bool :=
  match fs.lookup p with
  | .ok (.directory _) => true
  | _ => false

def hasFile (fs : FileSystem) (p : Path) : Bool :=
  match fs.lookup p with
  | .ok (.file _) => true
  | _ => false

/-- The bytes of the file at a path. -/
def read (fs : FileSystem) (p : Path) : Except FileError (List UInt8) := do
  match ← fs.lookup p with
  | .file content => return content
  | .directory _ => throw .isDirectory

/-! ## Changes -/

/-- The directory a path has its last part in, and that part; a separator at the end of the path
is left out of account here. -/
def splitLast (parts : List (List Char)) : List (List Char) × List Char :=
  let trimmed := (parts.reverse.dropWhile (·.isEmpty)).reverse
  (trimmed.dropLast, trimmed.getLast?.getD [])

/-- The place of a file that is opened for writing, which need not exist yet. -/
def placeForFile (fs : FileSystem) (p : Path) : Except FileError (List String) := do
  let parts ← lookupParts p
  let (before, last) := splitLast parts
  let parent ← fs.tree.follow (fs.start p) before
  match fs.tree.entry parent with
  | none => throw .notFound
  | some (.file _) => throw .notDirectory
  | some (.directory entries) =>
    if parts.getLast? = some [] ∨ last = ['.'] ∨ last = ['.', '.'] then throw .isDirectory
    let name := String.ofList last
    if FileTree.longestName < name.utf8ByteSize then throw .nameTooLong
    match entries.lookup name with
    | some (.directory _) => throw .isDirectory
    | _ => return parent ++ [name]

/-- Writes a file anew. -/
def write (fs : FileSystem) (p : Path) (content : List UInt8) : Except FileError FileSystem := do
  let names ← fs.placeForFile p
  return { fs with tree := fs.tree.put names (.file content) }

/-- Writes to the end of a file, which is made if it is not there. -/
def append (fs : FileSystem) (p : Path) (content : List UInt8) : Except FileError FileSystem := do
  let names ← fs.placeForFile p
  let before := match fs.tree.entry names with
    | some (.file bytes) => bytes
    | _ => []
  return { fs with tree := fs.tree.put names (.file (before ++ content)) }

/-- Makes the directory at a path and those above it, where they are not there yet.  If this fails,
those that were made are there. -/
def createDirectory (fs : FileSystem) (p : Path) : FileSystem × Option FileError :=
  if p.text.isEmpty then (fs, none)
  else
    match lookupParts p with
    | .error e => (fs, some e)
    | .ok parts =>
      let (tree, error) := fs.tree.makeDirectories false (fs.start p) parts
      ({ fs with tree }, error)

end FileSystem

end ApiDoc
