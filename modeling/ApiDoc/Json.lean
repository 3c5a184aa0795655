/-!
# JSON documents

A JSON value keeps its object entries in order.  It is written compactly, or laid out with two
spaces per level.
-/

namespace ApiDoc

inductive Json
  | null
  | bool (b : Bool)
  | number (n : Nat)
  | string (s : String)
  | array (items : List Json)
  | object (entries : List (String × Json))
deriving Inhabited

namespace Json

/-! ## Strings -/

/-- How a character is written in a string: quotes, backslashes and controls are escaped. -/
def escape (c : Char) : List Char :=
  if c = '"' then ['\\', '"']
  else if c = '\\' then ['\\', '\\']
  else if c = '\n' then ['\\', 'n']
  else if c = '\r' then ['\\', 'r']
  else if c = '\t' then ['\\', 't']
  else if c.toNat = 8 then ['\\', 'b']
  else if c.toNat = 12 then ['\\', 'f']
  else if c.toNat < 32 then
    ['\\', 'u', '0', '0', Nat.digitChar (c.toNat / 16), Nat.digitChar (c.toNat % 16)]
  else [c]

/-- A string literal. -/
def quote (s : String) : String := "\"" ++ String.ofList (s.toList.flatMap escape) ++ "\""

/-! ## Compact form -/

mutual

/-- The value without blanks. -/
def compact : Json → String
  | .null => "null"
  | .bool b => if b then "true" else "false"
  | .number n => toString n
  | .string s => quote s
  | .array items => "[" ++ ",".intercalate (compactItems items) ++ "]"
  | .object entries => "\x7b" ++ ",".intercalate (compactEntries entries) ++ "\x7d"
termination_by structural j => j

def compactItems : List Json → List String
  | [] => []
  | j :: r => compact j :: compactItems r
termination_by structural l => l

def compactEntries : List (String × Json) → List String
  | [] => []
  | (k, j) :: r => (quote k ++ ":" ++ compact j) :: compactEntries r
termination_by structural l => l

end

/-! ## Laid out form -/

/-- A line break and the indentation of a level. -/
def lineStart (level : Nat) : String := "\n" ++ String.ofList (List.replicate (2 * level) ' ')

/-- Items on lines of their own, one level deeper than the brackets around them. -/
def block (level : Nat) (left right : String) (items : List String) : String :=
  if items.isEmpty then left ++ right
  else
    left ++ ",".intercalate (items.map (lineStart (level + 1) ++ ·)) ++ lineStart level ++ right

mutual

/-- The value laid out, at a level of indentation. -/
def prettyAt (level : Nat) : Json → String
  | .null => "null"
  | .bool b => if b then "true" else "false"
  | .number n => toString n
  | .string s => quote s
  | .array items => block level "[" "]" (prettyItems (level + 1) items)
  | .object entries => block level "\x7b" "\x7d" (prettyEntries (level + 1) entries)
termination_by structural j => j

def prettyItems (level : Nat) : List Json → List String
  | [] => []
  | j :: r => prettyAt level j :: prettyItems level r
termination_by structural l => l

def prettyEntries (level : Nat) : List (String × Json) → List String
  | [] => []
  | (k, j) :: r => (quote k ++ ": " ++ prettyAt level j) :: prettyEntries level r
termination_by structural l => l

end

/-- The value laid out with two spaces per level. -/
def pretty (j : Json) : String := prettyAt 0 j

/-- A string, or `null`. -/
def ofString? : Option String → Json
  | some s => .string s
  | none => .null

/-- An array of strings. -/
def ofStrings (l : List String) : Json := .array (l.map .string)

end Json

end ApiDoc
