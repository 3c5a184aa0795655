import ApiDoc.Html.Construction.Table

/-!
# All rules

The rules of select elements, templates and framesets, and the choice of the rules for a token.
-/

namespace ApiDoc.Html.Builder

/-! ## Select elements -/

/-- Closes the select element. -/
def closeSelect (b : Builder) : Builder := (b.popThroughName "select").resetMode

/-- Closes the current element if it has a name. -/
def popIf (b : Builder) (name : String) : Builder := if b.currentIs name then b.pop else b

def selectRules (b : Builder) (t : Token) : Step :=
  match t with
  | .char c => (b.addChar c).done
  | .comment s => (b.addComment s).done
  | .startTag tag =>
    let is (names : List String) : Bool := names.contains tag.name
    if is ["html"] then (b.mergeRoot tag).done
    else if is ["option"] then ((b.popIf "option").insert tag).done
    else if is ["optgroup"] then (((b.popIf "option").popIf "optgroup").insert tag).done
    else if is ["hr"] then (((b.popIf "option").popIf "optgroup").insertVoid tag).done
    else if is ["select"] then (if b.inSelectScope "select" then b.closeSelect else b).done
    else if is ["input", "keygen", "textarea"] then
      if b.inSelectScope "select" then (b.closeSelect, some t) else b.done
    else if is ["script", "template"] then (b.insertHeadElement tag).done
    else b.done
  | .endTag tag =>
    match tag.name with
    | "optgroup" =>
      let isInGroup := match b.stack with
        | option :: group :: _ => b.isNamed "option" option && b.isNamed "optgroup" group
        | _ => false
      ((if isInGroup then b.pop else b).popIf "optgroup").done
    | "option" => (b.popIf "option").done
    | "select" => (if b.inSelectScope "select" then b.closeSelect else b).done
    | "template" => b.closeTemplate.done
    | _ => b.done
  | .eof => b.bodyRules t
  | _ => b.done

def selectInTableRules (b : Builder) (t : Token) : Step :=
  let isTablePart (name : String) : Bool :=
    ["caption", "table", "tbody", "tfoot", "thead", "tr", "td", "th"].contains name
  match t with
  | .startTag tag => if isTablePart tag.name then (b.closeSelect, some t) else b.selectRules t
  | .endTag tag =>
    if isTablePart tag.name then
      if b.inTableScope [tag.name] then (b.closeSelect, some t) else b.done
    else b.selectRules t
  | _ => b.selectRules t

/-! ## Templates -/

/-- The mode in which the contents of a template that begin with a tag are read. -/
def templateMode (name : String) : Mode :=
  if (["caption", "colgroup"] ++ sectionNames).contains name then .inTable
  else if name = "col" then .inColumnGroup
  else if name = "tr" then .inTableBody
  else if name = "td" || name = "th" then .inRow
  else .inBody

def templateRules (b : Builder) (t : Token) : Step :=
  match t with
  | .startTag tag =>
    if headNames.contains tag.name then (b.insertHeadElement tag).done
    else
      let mode := templateMode tag.name
      { b with templateModes := mode :: b.templateModes.tail }.redo mode t
  | .endTag tag => (if tag.name = "template" then b.closeTemplate else b).done
  | .eof => b.templateEnd
  | _ => b.bodyRules t

/-! ## Framesets -/

def framesetRules (b : Builder) (t : Token) : Step :=
  match t with
  | .char c => (if isSpace c then b.addChar c else b).done
  | .comment s => (b.addComment s).done
  | .startTag tag =>
    match tag.name with
    | "html" => (b.mergeRoot tag).done
    | "frameset" => (b.insert tag).done
    | "frame" => (b.insertVoid tag).done
    | "noframes" => (b.insertHeadElement tag).done
    | _ => b.done
  | .endTag tag =>
    if tag.name = "frameset" && b.stack.length != 1 then
      let b := b.pop
      (if b.isFragment || b.currentIs "frameset" then b else { b with mode := .afterFrameset }).done
    else b.done
  | _ => b.done

def afterFramesetRules (b : Builder) (t : Token) : Step :=
  match t with
  | .char c => (if isSpace c then b.addChar c else b).done
  | .comment s => (b.addComment s).done
  | .startTag tag =>
    match tag.name with
    | "html" => (b.mergeRoot tag).done
    | "noframes" => (b.insertHeadElement tag).done
    | _ => b.done
  | .endTag tag =>
    (if tag.name = "html" then { b with mode := .afterAfterFrameset } else b).done
  | _ => b.done

def afterAfterFramesetRules (b : Builder) (t : Token) : Step :=
  match t with
  | .char c => (if isSpace c then b.bodyChar c else b).done
  | .comment s => (b.addCommentTo Arena.document s).done
  | .startTag tag =>
    match tag.name with
    | "html" => (b.mergeRoot tag).done
    | "noframes" => (b.insertHeadElement tag).done
    | _ => b.done
  | _ => b.done

/-! ## Choice of the rules -/

/-- Takes a token by the rules of the mode. -/
def modeRules (b : Builder) (t : Token) : Step :=
  match b.mode with
  | .initial => b.initialRules t
  | .beforeHtml => b.beforeHtmlRules t
  | .beforeHead => b.beforeHeadRules t
  | .inHead => b.inHeadRules t
  | .afterHead => b.afterHeadRules t
  | .inBody => b.bodyRules t
  | .text => b.textRules t
  | .inTable => b.tableRules t
  | .inTableText => b.tableTextRules t
  | .inCaption => b.captionRules t
  | .inColumnGroup => b.columnGroupRules t
  | .inTableBody => b.tableBodyRules t
  | .inRow => b.rowRules t
  | .inCell => b.cellRules t
  | .inSelect => b.selectRules t
  | .inSelectInTable => b.selectInTableRules t
  | .inTemplate => b.templateRules t
  | .afterBody => b.afterBodyRules t
  | .inFrameset => b.framesetRules t
  | .afterFrameset => b.afterFramesetRules t
  | .afterAfterBody => b.afterAfterBodyRules t
  | .afterAfterFrameset => b.afterAfterFramesetRules t

/-- Takes a token once. -/
def takeOnce (b : Builder) (t : Token) : Step :=
  if b.isForeign t then foreignRules modeRules b t else b.modeRules t

/-- Takes a token until it is dealt with, within a number of turns. -/
def takeWithin : Nat → Builder → Token → Builder
  | 0, b, _ => b
  | n + 1, b, t =>
    match b.takeOnce t with
    | (b, none) => b
    | (b, some t) => takeWithin n b t

/-- A document type counts at the start only. -/
def takeDoctype (b : Builder) (d : Doctype) : Builder :=
  if b.mode = .initial then { b with isOldPage := d.isOld, mode := .beforeHtml } else b

/-- Takes a token.  Each turn that does not deal with it closes an element or goes on to a later
mode, so twice the open elements and a constant are turns enough. -/
def take (b : Builder) (t : Token) : Builder :=
  let drops := b.dropsLineFeed
  let b := { b with dropsLineFeed := false }
  match t with
  | .doctype d => b.takeDoctype d
  | .char c => if drops && c = '\n' then b else takeWithin (2 * b.stack.length + 32) b t
  | _ => takeWithin (2 * b.stack.length + 32) b t

end ApiDoc.Html.Builder
