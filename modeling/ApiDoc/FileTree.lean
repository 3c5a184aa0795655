/-!
# File trees

A file tree is a regular file or a directory of named trees.  A place in it is known by the names
that lead there from the top.
-/

namespace ApiDoc

inductive FileTree
  | file (content : List UInt8)
  | directory (entries : List (String × FileTree))
deriving Inhabited

namespace FileTree

/-- The tree at a place. -/
def entry (t : FileTree) : List String → Option FileTree
  | [] => some t
  | n :: r =>
    match t with
    | .file _ => none
    | .directory entries => (entries.lookup n).bind fun u => u.entry r

/-- Entries with a name bound to a tree. -/
def bindName (name : String) (t : FileTree) : List (String × FileTree) → List (String × FileTree)
  | [] => [(name, t)]
  | e :: r => if e.1 = name then (name, t) :: r else e :: bindName name t r

/-- The tree with another one put at a place; directories on the way are made. -/
def put (t : FileTree) (names : List String) (u : FileTree) : FileTree :=
  match names with
  | [] => u
  | n :: r =>
    match t with
    | .file _ => t
    | .directory entries =>
      .directory (bindName n (((entries.lookup n).getD (.directory [])).put r u) entries)

mutual

/-- The regular files in a tree with the names that lead to them. -/
def files : FileTree → List (List String × List UInt8)
  | .file content => [([], content)]
  | .directory entries => filesOf entries
termination_by structural t => t

/-- The regular files in the entries of a directory. -/
def filesOf : List (String × FileTree) → List (List String × List UInt8)
  | [] => []
  | (name, t) :: r => ((files t).map fun f => (name :: f.1, f.2)) ++ filesOf r
termination_by structural l => l

end

end FileTree

end ApiDoc
