import ApiDoc.Toml.Scalar

/-!
# TOML documents

A document is read line by line: key and value pairs go to the table whose header came last.  No
key may be given twice, and a table that has its own header or stands in braces is closed.
-/

namespace ApiDoc.Toml

/-! ## Tables -/

/-- A table under construction. -/
structure Table where
  origin : TableOrigin
  entries : List (String × Toml)
deriving Inhabited

namespace Table

def toToml (t : Table) : Toml := .table t.origin t.entries

/-- The table with one more entry. -/
def push (t : Table) (key : String) (v : Toml) : Table :=
  { t with entries := t.entries ++ [(key, v)] }

/-- Changes the table that a path of keys leads to.  Missing tables on the way get the origin
`made`, which tells a dotted key from a header; an array of tables stands for its last one. -/
def update (made : TableOrigin) (change : Table → Option Table) :
    List String → Table → Option Table
  | [], t => change t
  | k :: r, t =>
    match t.entries.lookup k with
    | none => (update made change r ⟨made, []⟩).map fun u => t.push k u.toToml
    | some (.table origin entries) =>
      if origin.isPassable (made == .dotted) then
        (update made change r ⟨origin, entries⟩).map fun u =>
          { t with entries := rebind k u.toToml t.entries }
      else none
    | some (.tables items) =>
      match items.getLast? with
      | some (.table origin entries) =>
        (update made change r ⟨origin, entries⟩).map fun u =>
          { t with entries := rebind k (.tables (items.dropLast ++ [u.toToml])) t.entries }
      | _ => none
    | some _ => none

/-- Adds a value under a dotted key.  A key of one part may not be in a table made by dotted keys,
any other has to be. -/
def insertKey (t : Table) (path : List String) (v : Toml) : Option Table :=
  match path.getLast? with
  | none => none
  | some key =>
    let before := path.dropLast
    update .dotted (fun u =>
      if (u.origin == .dotted) == before.isEmpty then none
      else if (u.entries.lookup key).isSome then none
      else some (u.push key v)) before t

end Table

/-! ## Blanks and comments -/

def dropSpaces (cs : List Char) : List Char := cs.dropWhile fun c => c == ' ' || c == '\t'

/-- Skips blanks, line breaks and comments. -/
def skipBlank (inComment : Bool) : List Char → Option (List Char)
  | [] => some []
  | '\n' :: r => skipBlank false r
  | '\r' :: '\n' :: r => skipBlank false r
  | c :: r =>
    if inComment then if isTextChar c then skipBlank true r else none
    else if c = ' ' ∨ c = '\t' then skipBlank false r
    else if c = '#' then skipBlank true r
    else some (c :: r)

/-- The next line, if nothing but a comment is left of this one. -/
def endLine (cs : List Char) : Option (List Char) :=
  let afterComment := match dropSpaces cs with
    | '#' :: r => r.dropWhile isTextChar
    | r => r
  match afterComment with
  | [] => some []
  | '\n' :: r => some r
  | '\r' :: '\n' :: r => some r
  | _ => none

/-! ## Keys -/

/-- Nesting is allowed up to here, and so is the number of parts of a key. -/
def depthLimit : Nat := 80

def isKeyChar (c : Char) : Bool := c.isAlphanum || c == '_' || c == '-'

/-- Reads one part of a key. -/
def keyPart (cs : List Char) : Option (String × List Char) :=
  match cs with
  | '"' :: r => (basicString r).map fun p => (String.ofList p.1, p.2)
  | '\'' :: r => (literalString r).map fun p => (String.ofList p.1, p.2)
  | _ =>
    let word := cs.takeWhile isKeyChar
    if word.isEmpty then none else some (String.ofList word, cs.dropWhile isKeyChar)

/-- Reads a key; `n` bounds the number of its parts. -/
def keyWithin : Nat → List Char → Option (List String × List Char)
  | 0, _ => none
  | n + 1, cs => do
    let (part, rest) ← keyPart (dropSpaces cs)
    match dropSpaces rest with
    | '.' :: r =>
      let (parts, rest) ← keyWithin n r
      return (part :: parts, rest)
    | r => return ([part], r)

/-- Reads a key and the blanks around it. -/
def key (cs : List Char) : Option (List String × List Char) := keyWithin (depthLimit - 1) cs

/-! ## Values -/

mutual

/-- Reads a value at a depth of nesting.  The fuel bounds the number of steps; the length of the
text is enough. -/
def valueWithin (fuel depth : Nat) (cs : List Char) : Option (Toml × List Char) :=
  match fuel with
  | 0 => none
  | fuel + 1 =>
    match cs with
    | [] => none
    | '[' :: r =>
      if depth + 1 < depthLimit then do
        let (items, rest) ← itemsWithin fuel (depth + 1) r
        return (.array items, rest)
      else none
    | '\x7b' :: r =>
      if depth + 1 < depthLimit then do
        let (t, rest) ← match dropSpaces r with
          | '\x7d' :: rest => some ((⟨.inline, []⟩ : Table), rest)
          | more => pairsWithin fuel (depth + 1) ⟨.inline, []⟩ more
        return (t.toToml, rest)
      else none
    | c :: _ =>
      if c = '"' ∨ c = '\'' then (anyString cs).map fun p => (.string (String.ofList p.1), p.2)
      else if c = '+' ∨ c = '-' ∨ c.isDigit then numberOrDate cs
      else keyword cs
termination_by structural fuel

/-- Reads the items of an array and the bracket behind them. -/
def itemsWithin (fuel depth : Nat) (cs : List Char) : Option (List Toml × List Char) :=
  match fuel with
  | 0 => none
  | fuel + 1 => do
    match ← skipBlank false cs with
    | ']' :: r => return ([], r)
    | more =>
      let (v, rest) ← valueWithin fuel depth more
      match ← skipBlank false rest with
      | ']' :: r => return ([v], r)
      | ',' :: r =>
        let (items, rest) ← itemsWithin fuel depth r
        return (v :: items, rest)
      | _ => none
termination_by structural fuel

/-- Reads the pairs of a table in braces and the brace behind them. -/
def pairsWithin (fuel depth : Nat) (t : Table) (cs : List Char) : Option (Table × List Char) :=
  match fuel with
  | 0 => none
  | fuel + 1 => do
    let (path, rest) ← key cs
    let (v, rest) ← valueWithin fuel depth (dropSpaces (← mark '=' rest))
    let t ← t.insertKey path v
    match dropSpaces rest with
    | '\x7d' :: r => return (t, r)
    | ',' :: r => pairsWithin fuel depth t r
    | _ => none
termination_by structural fuel

end

/-- Reads a value. -/
def value (cs : List Char) : Option (Toml × List Char) := valueWithin (2 * cs.length + 2) 0 cs

/-! ## Lines -/

/-- A document of which some lines are read. -/
structure Reading where
  /-- The tables that are finished. -/
  root : Table
  /-- The table whose header came last. -/
  current : Table
  /-- Its key; the document itself has none. -/
  path : List String
  /-- Whether its header has double brackets. -/
  isItem : Bool

namespace Reading

def start : Reading := ⟨⟨.header, []⟩, ⟨.header, []⟩, [], false⟩

/-- Puts the current table into its place. -/
def close (s : Reading) : Option Table :=
  match s.path.getLast? with
  | none => some s.current
  | some k =>
    Table.update .implied (fun t =>
      if s.isItem then
        match t.entries.lookup k with
        | some (.tables items) =>
          some { t with
            entries := rebind k (.tables (items ++ [s.current.toToml])) t.entries }
        | _ => none
      else some (t.push k s.current.toToml)) s.path.dropLast s.root

/-- Begins a table.  If it is already there because tables below it have headers, it keeps their
entries. -/
def openTable (s : Reading) (path : List String) : Option Reading := do
  let root ← s.close
  let k ← path.getLast?
  let above := path.dropLast
  let parent ← Table.update .implied some above root
  let check (t : Table) : Option Table :=
    match t.entries.lookup k with
    | none => some t
    | some (.table .implied _) => some { t with entries := t.entries.filter (·.1 != k) }
    | some _ => none
  let taken ← Table.update .implied check above parent
  return ⟨taken, ⟨.header, entriesAt path parent⟩, path, false⟩
where
  /-- The entries of the table that a path leads to. -/
  entriesAt : List String → Table → List (String × Toml)
    | [], t => t.entries
    | k :: r, t =>
      match t.entries.lookup k with
      | some (.table origin entries) => entriesAt r ⟨origin, entries⟩
      | some (.tables items) =>
        match items.getLast? with
        | some (.table origin entries) => entriesAt r ⟨origin, entries⟩
        | _ => []
      | _ => []

/-- Begins one more table of an array of tables. -/
def openItem (s : Reading) (path : List String) : Option Reading := do
  let root ← s.close
  let k ← path.getLast?
  let root ← Table.update .implied (fun t =>
    match t.entries.lookup k with
    | none => some (t.push k (.tables []))
    | some (.tables _) => some t
    | some _ => none) path.dropLast root
  return ⟨root, ⟨.header, []⟩, path, true⟩

/-- Adds a key and value pair to the current table. -/
def add (s : Reading) (path : List String) (v : Toml) : Option Reading :=
  (s.current.insertKey path v).map fun t => { s with current := t }

/-- Reads a line that is neither blank nor a comment. -/
def line (s : Reading) (cs : List Char) : Option (Reading × List Char) :=
  match cs with
  | '[' :: '[' :: r => do
    let (path, rest) ← key r
    let rest ← endLine (← mark ']' (← mark ']' rest))
    return (← s.openItem path, rest)
  | '[' :: r => do
    let (path, rest) ← key r
    let rest ← endLine (← mark ']' rest)
    return (← s.openTable path, rest)
  | _ => do
    let (path, rest) ← key cs
    let (v, rest) ← value (dropSpaces (← mark '=' rest))
    let rest ← endLine rest
    return (← s.add path v, rest)

/-- Reads lines to the end of the document; each takes a character at least, so the length of the
text bounds their number. -/
def linesWithin : Nat → Reading → List Char → Option Reading
  | 0, _, _ => none
  | n + 1, s, cs =>
    match dropSpaces cs with
    | [] => some s
    | '#' :: r => (endLine ('#' :: r)).bind (linesWithin n s)
    | '\n' :: r => linesWithin n s r
    | '\r' :: '\n' :: r => linesWithin n s r
    | more =>
      match s.line more with
      | some (s, rest) => linesWithin n s rest
      | none => none

end Reading

/-- Reads a document; a byte order mark at its start is skipped. -/
def ofText (text : List Char) : Option Toml :=
  let cs := match text with
    | '\uFEFF' :: r => r
    | _ => text
  ((Reading.start.linesWithin (cs.length + 1) cs).bind Reading.close).map Table.toToml

end ApiDoc.Toml
