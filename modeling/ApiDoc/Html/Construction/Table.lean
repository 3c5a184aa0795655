import ApiDoc.Html.Construction.Body

/-!
# Rules of tables

Tables take sections, sections take rows and rows take cells; elements that are left out are
implied, and content that belongs to none of them goes in front of the table.
-/

namespace ApiDoc.Html.Builder

def sectionNames : List String := ["tbody", "tfoot", "thead"]

/-- The start tags that end a caption or a cell. -/
def tablePartNames : List String :=
  ["caption", "col", "colgroup", "tbody", "td", "tfoot", "th", "thead", "tr"]

/-- The end tags that have no meaning in a caption or a row group. -/
def isIgnoredEnd (name : String) : Bool := ["body", "col", "html"].contains name

/-! ## Tables -/

/-- A character in a table waits for the next tag, if it stands between the parts of the table. -/
def tableChar (b : Builder) (t : Token) : Step :=
  if b.currentIsOneOf tableNames then { b with textReturn := b.mode }.redo .inTableText t
  else b.fosterRules t

/-- Closes what is open inside the table. -/
def clearToTable (b : Builder) : Builder := b.popTo ["html", "table", "template"]

/-- Closes the table, if one is in scope. -/
def closeTable (b : Builder) : Builder := (b.popThroughName "table").resetMode

def tableStart (b : Builder) (tag : Tag) : Step :=
  let is (names : List String) : Bool := names.contains tag.name
  let t := Token.startTag tag
  if is ["caption"] then { b.clearToTable.addMarker.insert tag with mode := .inCaption }.done
  else if is ["colgroup"] then { b.clearToTable.insert tag with mode := .inColumnGroup }.done
  else if is ["col"] then (b.clearToTable.insertImplied "colgroup").redo .inColumnGroup t
  else if is sectionNames then { b.clearToTable.insert tag with mode := .inTableBody }.done
  else if is ["td", "th", "tr"] then (b.clearToTable.insertImplied "tbody").redo .inTableBody t
  else if is ["table"] then
    if b.inTableScope ["table"] then (b.closeTable, some t) else b.done
  else if is ["style", "script", "template"] then (b.insertHeadElement tag).done
  else if is ["input"] && tag.isHidden then (b.insertVoid tag).done
  else if is ["form"] then
    if b.hasOpen "template" || b.form.isSome then b.done
    else
      let p := b.insertClosed .html tag
      { p.1 with form := some p.2 }.done
  else b.fosterRules t

def tableRules (b : Builder) (t : Token) : Step :=
  match t with
  | .char _ => b.tableChar t
  | .null => b.tableChar t
  | .comment s => (b.addComment s).done
  | .startTag tag => b.tableStart tag
  | .endTag tag =>
    if tag.name = "table" then (if b.inTableScope ["table"] then b.closeTable else b).done
    else if tag.name = "template" then b.closeTemplate.done
    else if isIgnoredEnd tag.name || tablePartNames.contains tag.name then b.done
    else b.fosterRules t
  | .eof => b.bodyRules t
  | _ => b.done

/-- The characters that waited go in front of the table, unless all are blank. -/
def flushTableText (b : Builder) : Builder :=
  let text := b.tableText
  let b := { b with tableText := [] }
  if text.all isSpace then text.foldl addChar b
  else text.foldl (fun b c => (b.fosterRules (.char c)).1) b

def tableTextRules (b : Builder) (t : Token) : Step :=
  match t with
  | .char c => { b with tableText := b.tableText ++ [c] }.done
  | .null => b.done
  | _ => b.flushTableText.redo b.textReturn t

/-! ## Captions and columns -/

/-- Closes the caption. -/
def closeCaption (b : Builder) : Builder :=
  { (b.closeImplied.popThroughName "caption").dropToMarker with mode := .inTable }

def captionRules (b : Builder) (t : Token) : Step :=
  let leave : Step := if b.inTableScope ["caption"] then (b.closeCaption, some t) else b.done
  match t with
  | .startTag tag => if tablePartNames.contains tag.name then leave else b.bodyRules t
  | .endTag tag =>
    if tag.name = "caption" then
      (if b.inTableScope ["caption"] then b.closeCaption else b).done
    else if tag.name = "table" then leave
    else if isIgnoredEnd tag.name || tablePartNames.contains tag.name then b.done
    else b.bodyRules t
  | _ => b.bodyRules t

def columnGroupRules (b : Builder) (t : Token) : Step :=
  let other : Step := if b.currentIs "colgroup" then b.pop.redo .inTable t else b.done
  match t with
  | .char c => if isSpace c then (b.addChar c).done else other
  | .comment s => (b.addComment s).done
  | .startTag tag =>
    if tag.name = "html" then (b.mergeRoot tag).done
    else if tag.name = "col" then (b.insertVoid tag).done
    else if tag.name = "template" then (b.insertHeadElement tag).done
    else other
  | .endTag tag =>
    if tag.name = "colgroup" then
      (if b.currentIs "colgroup" then { b.pop with mode := .inTable } else b).done
    else if tag.name = "col" then b.done
    else if tag.name = "template" then b.closeTemplate.done
    else other
  | .eof => b.bodyRules t
  | _ => other

/-! ## Sections, rows and cells -/

/-- Closes what is open inside the section. -/
def clearToSection (b : Builder) : Builder :=
  b.popTo ["tbody", "tfoot", "thead", "template", "html"]

/-- Closes the section. -/
def closeSection (b : Builder) : Builder := { b.clearToSection.pop with mode := .inTable }

def tableBodyRules (b : Builder) (t : Token) : Step :=
  let leave : Step :=
    if b.inTableScope ["table", "tbody", "tfoot"] then (b.closeSection, some t) else b.done
  match t with
  | .startTag tag =>
    if tag.name = "tr" then { b.clearToSection.insert tag with mode := .inRow }.done
    else if tag.name = "td" || tag.name = "th" then
      (b.clearToSection.insertImplied "tr").redo .inRow t
    else if (["caption", "col", "colgroup"] ++ sectionNames).contains tag.name then leave
    else b.tableRules t
  | .endTag tag =>
    if sectionNames.contains tag.name then
      (if b.inTableScope [tag.name] then b.closeSection else b).done
    else if tag.name = "table" then leave
    else if isIgnoredEnd tag.name || tablePartNames.contains tag.name then b.done
    else b.tableRules t
  | _ => b.tableRules t

/-- Closes what is open inside the row. -/
def clearToRow (b : Builder) : Builder := b.popTo ["tr", "template", "html"]

/-- Closes the row. -/
def closeRow (b : Builder) : Builder := { b.clearToRow.pop with mode := .inTableBody }

def rowRules (b : Builder) (t : Token) : Step :=
  let leave : Step := if b.inTableScope ["tr"] then (b.closeRow, some t) else b.done
  match t with
  | .startTag tag =>
    if tag.name = "td" || tag.name = "th" then
      { (b.clearToRow.insert tag).addMarker with mode := .inCell }.done
    else if tablePartNames.contains tag.name then leave
    else b.tableRules t
  | .endTag tag =>
    if tag.name = "tr" then (if b.inTableScope ["tr"] then b.closeRow else b).done
    else if tag.name = "table" then leave
    else if sectionNames.contains tag.name then
      if b.inTableScope [tag.name] then leave else b.done
    else if isIgnoredEnd tag.name || tablePartNames.contains tag.name then b.done
    else b.tableRules t
  | _ => b.tableRules t

/-- Closes the cell that is open. -/
def closeCell (b : Builder) : Builder :=
  { (b.closeImplied.popThrough (b.isOneOf ["td", "th"])).dropToMarker with mode := .inRow }

def cellRules (b : Builder) (t : Token) : Step :=
  match t with
  | .startTag tag =>
    if tablePartNames.contains tag.name then
      if b.inTableScope ["td", "th"] then (b.closeCell, some t) else b.done
    else b.bodyRules t
  | .endTag tag =>
    if tag.name = "td" || tag.name = "th" then
      (if b.inTableScope [tag.name] then
        { (b.closeImplied.popThroughName tag.name).dropToMarker with mode := .inRow }
      else b).done
    else if (["table", "tr"] ++ sectionNames).contains tag.name then
      if b.inTableScope [tag.name] then (b.closeCell, some t) else b.done
    else if isIgnoredEnd tag.name || tablePartNames.contains tag.name then b.done
    else b.bodyRules t
  | _ => b.bodyRules t

end ApiDoc.Html.Builder
