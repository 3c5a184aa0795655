import ApiDoc.ClassModel.Constants
import ApiDoc.Page
import ApiDoc.Text.Natural

/-!
# Pages of constants

A page of constants has one table per class between its first rule and the bottom navigation bar.
The first row of such a table is one cell across all three columns with the name of the class; each
other row has a declaration, a name and a value.
-/

namespace ApiDoc

open Html (Node)

/-- The values of constants by class and name. -/
abbrev ConstantTable := OrderedMap String ConstantValues

/-- A row of a constants table that has not three cells; rows are counted from one. -/
structure MalformedRow where
  className : String
  row : Nat
  cells : Nat
deriving DecidableEq

/-- The number of columns of a constants table. -/
def constantColumns : Nat := 3

namespace MalformedRow

def message (e : MalformedRow) : String :=
  "constants of " ++ e.className ++ ": row " ++ toString e.row ++ " has " ++ toString e.cells ++
    " cells, expected " ++ toString constantColumns

end MalformedRow

/-! ## Tables -/

/-- The cells of a row. -/
def rowCells (row : Node) : List Node :=
  row.childElements.filter fun n => n.hasName "td" || n.hasName "th"

/-- The number of columns a cell says it spans. -/
def columnSpan? (cell : Node) : Option Nat :=
  (cell.attribute? "colspan").bind fun s => Text.natural? (Text.trim s.toList)

/-- The class a heading row names. -/
def rowClass? (row : Node) : Option String :=
  match rowCells row with
  | [cell] =>
    let name := cell.trimmedText
    if cell.hasName "td" && columnSpan? cell == some constantColumns && !name.isEmpty then
      some (String.ofList name)
    else none
  | _ => none

/-- The class a table is about and its rows below the heading, if it is a constants table. -/
def constantRows? (table : Node) : Option (String × List Node) :=
  match table.elements.filter (·.hasName "tr") with
  | heading :: row :: rows => (rowClass? heading).map fun c => (c, row :: rows)
  | _ => none

/-- The tables of a page between the first rule and the bottom navigation bar. -/
def candidateTables (body : List Node) : List Node :=
  ((body.dropWhile (!·.hasName "hr")).takeWhile (!·.isAnchor navigationAnchor)).filter
    (·.hasName "table")

/-- The name and the value in a row. -/
def readRow (className : String) (index : Nat) (row : Node) :
    Except MalformedRow (String × String) :=
  match rowCells row with
  | [_, name, value] => .ok (String.ofList name.trimmedText, String.ofList value.trimmedText)
  | cells => .error ⟨className, index + 1, cells.length⟩

/-- Reads the rows of a class. -/
def readRows (className : String) (rows : List Node) :
    Except MalformedRow (List (String × String)) :=
  rows.zipIdx.mapM fun (row, index) => readRow className index row

namespace ConstantTable

/-- Adds the values of a class to those it has; later values of a name count. -/
def addRows (t : ConstantTable) (className : String) (rows : List (String × String)) :
    ConstantTable :=
  let before := (t.get? className).getD .empty
  t.insert className (rows.foldl (fun m e => m.insert e.1 e.2) before)

/-- Reads the tables of a page. -/
def ofTree (page : Node) : Except MalformedRow ConstantTable :=
  ((candidateTables page.bodyElements).filterMap constantRows?).foldlM
    (fun t (className, rows) => do return t.addRows className (← readRows className rows)) .empty

/-- Reads the text of a page of constants. -/
def ofPage (text : List Char) : Except MalformedRow ConstantTable := ofTree (Html.readPage text)

end ConstantTable

end ApiDoc
