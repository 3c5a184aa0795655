import ApiDoc.CommandLine.Run
import Std.Time.Format

/-!
# The program

Reads what stands on the way of the paths that a command line and its configuration name, runs the
command line on it, and writes what it leaves behind: texts on standard output and standard error,
directories and files.
-/

namespace ApiDoc.CommandLine

/-- A place as the operating system writes it. -/
def writtenPlace (names : List String) : String := "/" ++ "/".intercalate names

/-! ## Reading -/

/-- Reads a file or a directory with all below it; links are left out. -/
partial def readEntry (e : IO.FS.DirEntry) : IO (List (String × FileTree)) := do
  match (← e.path.symlinkMetadata).type with
  | .file => return [(e.fileName, .file (← IO.FS.readBinFile e.path).toList)]
  | .dir =>
    let entries ← (← e.path.readDir).toList.mapM readEntry
    return [(e.fileName, .directory entries.flatten)]
  | _ => return []

/-- Adds what stands at a place, if it is not there yet; a directory without its entries. -/
def readPlace (fs : FileSystem) (names : List String) : IO FileSystem := do
  let path := (← IO.currentDir) / writtenPlace names
  if (fs.tree.entry names).isSome || !(← path.pathExists) then return fs
  let t ← if ← path.isDir then pure (.directory [])
    else pure (.file (← IO.FS.readBinFile path).toList)
  return { fs with tree := fs.tree.put names t }

/-- The place a path leads to, and the file system with what stands there and on the way. -/
def readWay (fs : FileSystem) (p : Path) : IO (FileSystem × List String) := do
  let start := fs.start p
  p.parts.foldlM (fun (fs, names) part => do
    let next := Path.step names part
    return (← readPlace fs next, next)) (← readPlace fs start, start)

/-- Adds what a path of a file needs to be looked up. -/
def readFile (fs : FileSystem) (p : Path) : IO FileSystem := return (← readWay fs p).1

/-- Adds a directory with all below it. -/
def readRoot (fs : FileSystem) (p : Path) : IO FileSystem := do
  let (fs, names) ← readWay fs p
  let path := (← IO.currentDir) / writtenPlace names
  if !(← path.isDir) then return fs
  let entries ← (← path.readDir).toList.mapM readEntry
  return { fs with tree := fs.tree.put names (.directory entries.flatten) }

/-- Adds what the paths of a request lead to, and those of the configuration it names. -/
def readRequest (fs : FileSystem) : Request → IO FileSystem
  | .extract a => do
    let fs ← a.config.toList.foldlM readFile fs
    match baseConfig fs a with
    | .error _ => return fs
    | .ok base =>
      let c := applyArguments base a
      let fs ← (c.output.path.toList ++ c.logging.file.toList).foldlM readFile fs
      c.roots.foldlM readRoot fs
  | .parse a => readFile fs a.file
  | .constants a => readFile fs a.file
  | _ => return fs

/-! ## Writing -/

/-- Makes the directories and writes the files that are new in a tree or differ from those of another
one. -/
partial def writeChanges (names : List String) (before : Option FileTree) : FileTree → IO Unit
  | .file content => do
    let unchanged := match before with
      | some (.file bytes) => bytes == content
      | _ => false
    if !unchanged then IO.FS.writeBinFile (writtenPlace names) ⟨content.toArray⟩
  | .directory entries => do
    if before.isNone then IO.FS.createDir (writtenPlace names)
    for (name, t) in entries do
      writeChanges (names ++ [name]) (before.bind fun u => u.entry [name]) t

end ApiDoc.CommandLine

open ApiDoc ApiDoc.CommandLine in
def main (args : List String) : IO UInt32 := do
  let current := (← IO.currentDir).components.filter (· ≠ "")
  let top : FileSystem := ⟨.directory [], []⟩
  let here := { top with tree := top.tree.put current (.directory []), current }
  let files ← match readArguments args with
    | .ok request => readRequest here request
    | .error _ => pure here
  let now := Std.Time.DateTime.ofTimestamp (← Std.Time.Timestamp.now) .UTC
  let time := now.format "uuuu-MM-dd'T'HH:mm:ss.SSSSSS'Z'"
  let o := CommandLine.run ⟨files, ← IO.getEnv "RUST_LOG", time⟩ args
  writeChanges [] files.tree o.files.tree
  (← IO.getStdout).putStr o.stdout
  (← IO.getStderr).putStr o.stderr
  return o.code.toUInt32
