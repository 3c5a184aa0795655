import ApiDoc.FileUrl.Host

/-!
# File URLs

A file URL is known by its path, a list of segments; an empty last segment means that the path ends
with a separator.  `join?` follows a reference from a file URL: `.` and `..` are resolved segment
by segment, a backslash separates like a slash, a drive letter stays where it is, and query and
fragment are dropped.
-/

namespace ApiDoc.FileUrl

/-- The segments of a path. -/
abbrev Segments := List (List Char)

/-! ## Segments -/

def isSeparator (c : Char) : Bool := c == '/' || c == '\\'

/-- Reads `%2e` as a dot. -/
def plainDots : List Char → List Char
  | '%' :: '2' :: 'e' :: r => '.' :: plainDots r
  | '%' :: '2' :: 'E' :: r => '.' :: plainDots r
  | c :: r => c :: plainDots r
  | [] => []

/-- A letter with `:` or `|`. -/
def isDriveLetter : List Char → Bool
  | [c, d] => c.isAlpha && (d == ':' || d == '|')
  | _ => false

/-- A letter with `:`. -/
def isNormalizedDriveLetter : List Char → Bool
  | [c, d] => c.isAlpha && d == ':'
  | _ => false

/-- Removes the last segment, but no drive letter. -/
def shorten (path : Segments) : Segments :=
  if path.getLast?.any isDriveLetter then path else path.dropLast

/-- The first segment is written with `:` if it is a drive letter. -/
def normalizedFirst (s : List Char) : List Char :=
  if isDriveLetter s then s.take 1 ++ [':'] else s

/-- Follows one segment; `more` says that a separator comes behind it. -/
def addSegment (path : Segments) (s : List Char) (more : Bool) : Segments :=
  if plainDots s = ['.', '.'] then if more then shorten path else shorten path ++ [[]]
  else if plainDots s = ['.'] then if more then path else path ++ [[]]
  else if path.isEmpty then [normalizedFirst s]
  else path ++ [s]

/-- Follows segments with separators between them. -/
def addSegments (path : Segments) : Segments → Segments
  | [] => path
  | [s] => addSegment path s false
  | s :: r => addSegments (addSegment path s true) r

/-- Separators at the start of a path count as one. -/
def dropLeadingEmpty : Segments → Segments
  | [] :: s :: r => dropLeadingEmpty (s :: r)
  | path => path

/-- Whether a character ends the path. -/
def endsPath (c : Char) : Bool := c == '?' || c == '#'

/-- Follows the path part of a reference. -/
def followPath (path : Segments) (reference : List Char) : Segments :=
  dropLeadingEmpty
    (addSegments path ((reference.takeWhile fun c => !endsPath c).splitOnP isSeparator))

/-! ## References -/

/-- Whether a reference begins with a drive letter that is a segment of its own. -/
def startsWithDriveLetter : List Char → Bool
  | c :: d :: r => isDriveLetter [c, d] && r.head?.all fun e => isSeparator e || endsPath e
  | _ => false

/-- The scheme of a reference in lower case and what follows its colon. -/
def scheme? (reference : List Char) : Option (List Char × List Char) :=
  match reference with
  | c :: _ =>
    if c.isAlpha then
      match reference.dropWhile fun d => d.isAlphanum || d == '+' || d == '-' || d == '.' with
      | ':' :: rest =>
        some ((reference.take (reference.length - rest.length - 1)).map Char.toLower, rest)
      | _ => none
    else none
  | [] => none

/-- Follows a reference behind two separators: a host comes first. -/
def followHost? (reference : List Char) : Option Segments :=
  let host := reference.takeWhile fun c => !(isSeparator c || endsPath c)
  let rest := reference.dropWhile fun c => !(isSeparator c || endsPath c)
  if isDriveLetter host then some (followPath [] reference)
  else if host.isEmpty || isHost host then
    match rest with
    | c :: r => some (followPath [] (if isSeparator c then r else rest))
    | [] => some (followPath [] [])
  else none

/-- Follows a reference behind one separator: the path starts anew, on the drive of the base. -/
def followRoot (base : Segments) (reference : List Char) : Segments :=
  let drive :=
    if startsWithDriveLetter reference then [] else (base.take 1).filter isNormalizedDriveLetter
  followPath drive reference

/-- Follows a reference that has no scheme, or the scheme of files. -/
def follow? (base : Segments) (reference : List Char) : Option Segments :=
  match reference with
  | [] => some base
  | c :: r =>
    if isSeparator c then
      match r with
      | d :: r' => if isSeparator d then followHost? r' else some (followRoot base r)
      | [] => some (followRoot base r)
    else if endsPath c then some base
    else if startsWithDriveLetter reference then some (followPath [] reference)
    else some (followPath (shorten base) reference)

/-- Controls and spaces around a reference do not count. -/
def isEdge (c : Char) : Bool := c.toNat ≤ 32

/-- Tabs and line breaks inside a reference do not count. -/
def isIgnored (c : Char) : Bool := c == '\t' || c == '\n' || c == '\r'

/-- The reference as it is read. -/
def cleaned (reference : List Char) : List Char :=
  (((reference.dropWhile isEdge).reverse.dropWhile isEdge).reverse).filter fun c => !isIgnored c

/-- The path of the file a reference leads to from a file with a given path; none if it leads out
of the files or cannot be read. -/
def join? (base : Segments) (reference : List Char) : Option Segments :=
  let r := cleaned reference
  match scheme? r with
  | some (scheme, rest) => if scheme = "file".toList then follow? base rest else none
  | none => follow? base r

/-- The path of the directory `text` below the root. -/
def directory (text : List Char) : Segments := followPath [] (cleaned ('/' :: text)).tail

/-! ## Writing -/

/-- Characters a path holds as they are. -/
def isPlain (c : Char) : Bool :=
  32 < c.toNat && c.toNat < 127 && !"\"#<>?^\x7b\x7d".toList.contains c && c.toNat != 0x60

/-- A byte as `%` and two upper-case hexadecimal digits. -/
def percentByte (b : UInt8) : List Char :=
  ['%', (Nat.digitChar (b.toNat / 16)).toUpper, (Nat.digitChar (b.toNat % 16)).toUpper]

/-- A segment as it is written. -/
def encodeSegment (s : List Char) : List Char :=
  s.flatMap fun c => if isPlain c then [c] else c.toString.toUTF8.toList.flatMap percentByte

end ApiDoc.FileUrl
