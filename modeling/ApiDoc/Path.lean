/-!
# Paths

A path is a text whose parts are separated by `/`.  Two paths are the same when their components
agree: repeated and trailing separators do not count, nor does a part `.`, except at the start of a
relative path.  Paths are ordered by their components.
-/

namespace ApiDoc

/-- A path as it is written. -/
structure Path where
  text : String
deriving DecidableEq, Inhabited

namespace Path

/-! ## Components -/

/-- What a part of a path stands for. -/
inductive Component
  | root
  | current
  | parent
  | normal (name : String)
deriving DecidableEq, Inhabited

namespace Component

/-- Special components come before names. -/
def rank : Component → Nat
  | .root => 0
  | .current => 1
  | .parent => 2
  | .normal _ => 3

def text : Component → String
  | .root => "/"
  | .current => "."
  | .parent => ".."
  | .normal name => name

instance : Ord Component := ⟨compareLex (compareOn rank) (compareOn text)⟩

/-- The component of a part that does not stand at the start; empty parts and `.` have none. -/
def ofPart? (part : List Char) : Option Component :=
  if part = [] ∨ part = ['.'] then none
  else if part = ['.', '.'] then some .parent
  else some (.normal (String.ofList part))

end Component

/-- The parts between the separators. -/
def parts (p : Path) : List (List Char) := p.text.toList.splitOnP (· == '/')

/-- The components; a leading separator is the root, a leading `.` the current directory. -/
def components (p : Path) : List Component :=
  match p.parts with
  | [] => []
  | [] :: rest =>
    if rest.isEmpty then [] else .root :: rest.filterMap Component.ofPart?
  | first :: rest =>
    if first = ['.'] then .current :: rest.filterMap Component.ofPart?
    else (first :: rest).filterMap Component.ofPart?

/-- Whether two paths have the same components. -/
def same (p q : Path) : Bool := p.components == q.components

/-- Lexicographic order of component lists. -/
def compareComponents : List Component → List Component → Ordering
  | [], [] => .eq
  | [], _ :: _ => .lt
  | _ :: _, [] => .gt
  | a :: l, b :: m => (compare a b).then (compareComponents l m)

/-- Whether `p` stands before `q` or has the same components. -/
def le (p q : Path) : Bool := (compareComponents p.components q.components).isLE

/-! ## Operations -/

def isAbsolute (p : Path) : Bool := p.text.toList.head? == some '/'

/-- The path `q` seen from the directory `p`. -/
def join (p q : Path) : Path :=
  if q.isAbsolute then q
  else if p.text.isEmpty || p.text.toList.getLast? == some '/' then ⟨p.text ++ q.text⟩
  else ⟨p.text ++ "/" ++ q.text⟩

/-- Whether a part at place `i` counts as a component. -/
def isCounted (i : Nat) (part : List Char) : Bool :=
  i == 0 || !(part.isEmpty || part == ['.'])

/-- The parts without those at the end that count for nothing. -/
def dropUncounted (parts : List (List Char)) : List (List Char) :=
  ((parts.zipIdx.reverse.dropWhile fun e => !isCounted e.2 e.1).map (·.1)).reverse

/-- The path of the directory a path lies in; the root and the empty path lie in none. -/
def parent? (p : Path) : Option Path :=
  match p.components.getLast? with
  | none => none
  | some .root => none
  | some _ =>
    let rest := dropUncounted (dropUncounted p.parts).dropLast
    some ⟨if rest = [[]] then "/" else String.ofList (['/'].intercalate rest)⟩

/-- The place that a part of a path leads to from a place, both known by the names that lead there from
the top; whatever stands there. -/
def step (names : List String) (part : List Char) : List String :=
  if part = [] ∨ part = ['.'] then names
  else if part = ['.', '.'] then names.dropLast
  else names ++ [String.ofList part]

/-- What follows the last dot of a file name; a dot at its start does not count. -/
def extensionOf? (name : String) : Option String :=
  match name.toList.reverse.span (· != '.') with
  | (after, '.' :: before) => if before.isEmpty then none else some (String.ofList after.reverse)
  | _ => none

end Path

end ApiDoc
