import ApiDoc.FileSystem

/-!
# Selecting documents

The class pages of a documentation root are the `.html` files in its directories; files on the top
level are indexes and frames.  A selection leaves out top-level directories, paths with certain
fragments, and files of certain names.
-/

namespace ApiDoc

/-- Which files under a documentation root are no class pages. -/
structure Selection where
  /-- Names of top-level directories that are left out. -/
  skipDirectories : List String
  /-- A page is left out if its path in the root contains one of these. -/
  skipFragments : List String
  /-- File names that are left out. -/
  skipNames : List String
deriving DecidableEq

namespace Selection

def default : Selection where
  skipDirectories := ["resources"]
  skipFragments := ["class-use/", "doc-files/", "index-files/"]
  skipNames := [
    "package-use.html",
    "package-tree.html",
    "package-frame.html",
    "package-summary.html",
    "copyright-notice.html",
    "copyright.html"]

instance : Inhabited Selection := ⟨default⟩

/-- Whether a text occurs in another. -/
def occursIn (fragment : List Char) : List Char → Bool
  | [] => fragment.isEmpty
  | c :: r => fragment.isPrefixOf (c :: r) || occursIn fragment r

/-- Whether the file that the names lead to in a root is a class page. -/
def selects (s : Selection) (names : List String) : Bool :=
  match names, names.getLast? with
  | top :: _ :: _, some name =>
    Path.extensionOf? name == some "html" &&
      !s.skipDirectories.contains top &&
      !s.skipNames.contains name &&
      !s.skipFragments.any fun f => occursIn f.toList ("/".intercalate names).toList
  | _, _ => false

end Selection

/-- The documents of a documentation root. -/
structure DocumentSet where
  root : Path
  /-- The class pages in ascending order. -/
  pages : List Path
  /-- The page of constants, if there is one. -/
  constants : Option Path
deriving DecidableEq

/-- A documentation root that is no directory. -/
structure MissingRoot where
  root : Path
deriving DecidableEq

namespace MissingRoot

def message (e : MissingRoot) : String :=
  "documentation root " ++ e.root.text ++ " is not a directory"

end MissingRoot

namespace DocumentSet

/-- The documents under a root. -/
def collect (fs : FileSystem) (s : Selection) (constantsFile : String) (root : Path) :
    Except MissingRoot DocumentSet :=
  match fs.lookup root with
  | .ok (.directory entries) =>
    let selected := (FileTree.filesOf entries).filter fun f => s.selects f.1
    let pages := selected.map fun f => f.1.foldl (fun p name => p.join ⟨name⟩) root
    let constants := root.join ⟨constantsFile⟩
    .ok {
      root := root
      pages := pages.mergeSort Path.le
      constants := if fs.hasFile constants then some constants else none }
  | _ => .error ⟨root⟩

end DocumentSet

end ApiDoc
