import ApiDoc.Html.Construction.Foreign

/-!
# Rules of the body

The rules for the contents of the body, which hold in tables and templates as well.
-/

namespace ApiDoc.Html

/-- The start tags of blocks that close a paragraph. -/
def blockNames : List String := [
  "address", "article", "aside", "blockquote", "center", "details", "dialog", "dir", "div", "dl",
  "fieldset", "figcaption", "figure", "footer", "header", "hgroup", "main", "menu", "nav", "ol",
  "p", "section", "summary", "ul"]

/-- The end tags that close a block in scope. -/
def blockEndNames : List String :=
  (blockNames.filter (· != "p")) ++ ["button", "listing", "pre"]

def headingNames : List String := ["h1", "h2", "h3", "h4", "h5", "h6"]

def formattingNames : List String := [
  "b", "big", "code", "em", "font", "i", "s", "small", "strike", "strong", "tt", "u"]

/-- The elements that hold content of their own kind. -/
def objectNames : List String := ["applet", "marquee", "object"]

/-- The start tags that have no meaning in the body. -/
def strayNames : List String := [
  "caption", "col", "colgroup", "frame", "head", "tbody", "td", "tfoot", "th", "thead", "tr"]

/-- Whether an input is hidden by its type. -/
def Tag.isHidden (t : Tag) : Bool :=
  t.attributes.any fun a => a.1 == "type" && lowerCase a.2 == "hidden"

namespace Builder

/-! ## Blocks -/

/-- The list item or definition a new one closes: the innermost, unless a block bars the way. -/
def openItem? (b : Builder) (names : List String) : Option String :=
  let isBar (id : NodeId) : Bool :=
    b.isOneOf (specialNames.filter fun n => n != "address" && n != "div" && n != "p") id
  match b.stack.dropWhile fun id => !(b.isOneOf names id || isBar id) with
  | [] => none
  | id :: _ => names.find? fun n => b.isNamed n id

/-- Inserts a list item or definition. -/
def insertItem (b : Builder) (t : Tag) : Builder :=
  let names := if t.name = "li" then ["li"] else ["dd", "dt"]
  let b := { b with framesetOk := false }
  let b := match b.openItem? names with
    | some name => (b.closeImpliedExcept name).popThroughName name
    | none => b
  b.closeOpenParagraph.insert t

/-- Inserts a heading; a heading inside a heading closes the outer one. -/
def insertHeading (b : Builder) (t : Tag) : Builder :=
  let b := b.closeOpenParagraph
  (if b.currentIsOneOf headingNames then b.pop else b).insert t

/-- Inserts a form, unless one is open. -/
def insertForm (b : Builder) (t : Tag) : Builder :=
  if b.form.isSome && !b.hasOpen "template" then b
  else
    let p := b.closeOpenParagraph.insertOpen .html t
    if b.hasOpen "template" then p.1 else { p.1 with form := some p.2 }

/-- Closes the form that is open. -/
def closeForm (b : Builder) : Builder :=
  if b.hasOpen "template" then
    if b.inScope "form" then b.closeImplied.popThroughName "form" else b
  else
    match b.form with
    | none => b
    | some form =>
      let b := { b with form := none }
      if b.scopeHas (· == form) then b.closeImplied.dropFromStack form else b

/-- Closes an element in scope and what is open in it. -/
def closeInScope (b : Builder) (name : String) : Builder :=
  if b.inScope name then b.closeImplied.popThroughName name else b

/-! ## Inline elements -/

/-- Inserts an element without contents among text. -/
def insertVoidInline (b : Builder) (t : Tag) : Builder :=
  let keeps := t.name == "input" && t.isHidden
  let b := b.reopenFormatting.insertVoid t
  { b with framesetOk := b.framesetOk && keeps }

/-- Inserts a select element. -/
def insertSelect (b : Builder) (t : Tag) : Builder :=
  let isInTable := [Mode.inTable, .inCaption, .inTableBody, .inRow, .inCell].contains b.mode
  { b.reopenFormatting.insert t with
    framesetOk := false
    mode := if isInTable then .inSelectInTable else .inSelect }

/-- Inserts a table; on old pages it does not close a paragraph. -/
def insertTable (b : Builder) (t : Tag) : Builder :=
  let b := if b.isOldPage then b else b.closeOpenParagraph
  { b.insert t with framesetOk := false, mode := .inTable }

/-- A frameset takes the place of the body, if it still may. -/
def replaceBody (b : Builder) (t : Tag) : Builder :=
  if !b.framesetOk then b
  else
    match b.body? with
    | none => b
    | some body =>
      let b := { b with
        arena := b.arena.detach body
        stack := b.stack.getLast?.toList }
      { b.insert t with mode := .inFrameset }

/-- A second tag of the body adds the attributes the body does not have. -/
def mergeBody (b : Builder) (t : Tag) : Builder :=
  match b.body? with
  | some body =>
    if b.stack.length = 1 || b.hasOpen "template" then b
    else { b with framesetOk := false, arena := b.arena.addAttributes body t.attributes }
  | none => b

/-! ## Rules -/

/-- A character of the body. -/
def bodyChar (b : Builder) (c : Char) : Builder :=
  let b := b.reopenFormatting
  { b with framesetOk := b.framesetOk && isSpace c }.addChar c

/-- The end of the page inside a template closes the template. -/
def templateEnd (b : Builder) : Step :=
  if b.hasOpen "template" then
    let b := (b.popThroughName "template").dropToMarker
    let b := { b with templateModes := b.templateModes.tail }.resetMode
    (b, some .eof)
  else b.done

/-- Start tags by the rules of the body. -/
def bodyStart (b : Builder) (t : Tag) : Builder :=
  let is (names : List String) : Bool := names.contains t.name
  if is ["html"] then b.mergeRoot t
  else if is headNames then b.insertHeadElement t
  else if is ["body"] then b.mergeBody t
  else if is ["frameset"] then b.replaceBody t
  else if is blockNames then b.closeOpenParagraph.insert t
  else if is headingNames then b.insertHeading t
  else if is ["pre", "listing"] then
    { b.closeOpenParagraph.insert t with dropsLineFeed := true, framesetOk := false }
  else if is ["form"] then b.insertForm t
  else if is ["li", "dd", "dt"] then b.insertItem t
  else if is ["plaintext"] then { b.closeOpenParagraph.insert t with content := .plaintext }
  else if is ["button"] then
    { (b.closeInScope "button").reopenFormatting.insert t with framesetOk := false }
  else if is ["a"] then b.closeOuterLink.reopenFormatting.insertFormatting t
  else if is formattingNames then b.reopenFormatting.insertFormatting t
  else if is ["nobr"] then
    let b := b.reopenFormatting
    let b := if b.inScope "nobr" then (b.closeFormatting "nobr").reopenFormatting else b
    b.insertFormatting t
  else if is objectNames then
    { (b.reopenFormatting.insert t).addMarker with framesetOk := false }
  else if is ["table"] then b.insertTable t
  else if is ["area", "br", "embed", "img", "keygen", "wbr", "input"] then b.insertVoidInline t
  else if is ["param", "source", "track"] then b.insertVoid t
  else if is ["hr"] then { b.closeOpenParagraph.insertVoid t with framesetOk := false }
  else if is ["image"] then b.insertVoidInline { t with name := "img" }
  else if is ["textarea"] then
    { b.insertText t .rcdata with dropsLineFeed := true, framesetOk := false }
  else if is ["xmp"] then
    { b.closeOpenParagraph.reopenFormatting.insertText t .rawtext with framesetOk := false }
  else if is ["iframe"] then { b.insertText t .rawtext with framesetOk := false }
  else if is ["noembed", "noscript"] then b.insertText t .rawtext
  else if is ["select"] then b.insertSelect t
  else if is ["optgroup", "option"] then
    (if b.currentIs "option" then b.pop else b).reopenFormatting.insert t
  else if is ["rb", "rtc"] then (if b.inScope "ruby" then b.closeImplied else b).insert t
  else if is ["rp", "rt"] then
    (if b.inScope "ruby" then b.closeImpliedExcept "rtc" else b).insert t
  else if is ["math"] then b.reopenFormatting.insertIn .mathml t
  else if is ["svg"] then b.reopenFormatting.insertIn .svg t
  else if is strayNames then b
  else b.reopenFormatting.insert t

/-- End tags by the rules of the body, but for those of the body itself. -/
def bodyEnd (b : Builder) (name : String) : Builder :=
  let is (names : List String) : Bool := names.contains name
  if is ["template"] then b.closeTemplate
  else if is blockEndNames then b.closeInScope name
  else if is ["form"] then b.closeForm
  else if is ["p"] then (if b.inButtonScope "p" then b else b.insertImplied "p").closeParagraph
  else if is ["li"] then
    if b.inListScope "li" then (b.closeImpliedExcept "li").popThroughName "li" else b
  else if is ["dd", "dt"] then
    if b.inScope name then (b.closeImpliedExcept name).popThroughName name else b
  else if is headingNames then
    if b.scopeHas (b.isOneOf headingNames) then
      b.closeImplied.popThrough (b.isOneOf headingNames)
    else b
  else if is ("a" :: "nobr" :: formattingNames) then b.closeFormatting name
  else if is objectNames then
    if b.inScope name then (b.closeImplied.popThroughName name).dropToMarker else b
  else if is ["br"] then b.insertVoidInline (plainTag "br")
  else b.closeOrdinary name

def bodyRules (b : Builder) (t : Token) : Step :=
  match t with
  | .char c => (b.bodyChar c).done
  | .comment s => (b.addComment s).done
  | .startTag tag => (b.bodyStart tag).done
  | .endTag tag =>
    if tag.name = "body" then (if b.inScope "body" then { b with mode := .afterBody } else b).done
    else if tag.name = "html" then if b.inScope "body" then b.redo .afterBody t else b.done
    else (b.bodyEnd tag.name).done
  | .eof => if b.templateModes.isEmpty then b.done else b.templateEnd
  | _ => b.done

/-- Takes a token by the rules of the body, putting what a table cannot hold in front of it. -/
def fosterRules (b : Builder) (t : Token) : Step :=
  let p := { b with fostering := true }.bodyRules t
  ({ p.1 with fostering := false }, p.2)

/-! ## After the body -/

def afterBodyRules (b : Builder) (t : Token) : Step :=
  match t with
  | .char c => if isSpace c then (b.bodyChar c).done else b.redo .inBody t
  | .comment s => (b.addCommentTo (b.root?.getD Arena.document) s).done
  | .startTag tag => if tag.name = "html" then (b.mergeRoot tag).done else b.redo .inBody t
  | .endTag tag =>
    if tag.name = "html" then
      (if b.isFragment then b else { b with mode := .afterAfterBody }).done
    else b.redo .inBody t
  | .eof => b.done
  | _ => b.redo .inBody t

def afterAfterBodyRules (b : Builder) (t : Token) : Step :=
  match t with
  | .char c => if isSpace c then (b.bodyChar c).done else b.redo .inBody t
  | .comment s => (b.addCommentTo Arena.document s).done
  | .startTag tag => if tag.name = "html" then (b.mergeRoot tag).done else b.redo .inBody t
  | .eof => b.done
  | _ => b.redo .inBody t

end Builder

end ApiDoc.Html
