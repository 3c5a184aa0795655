import ApiDoc.Html.Construction.Formatting

/-!
# Rules before the body

The rules for document types, for the start of the page, and for the contents of its head, which
may also stand elsewhere.
-/

namespace ApiDoc.Html

/-! ## Document types -/

/-- Public identifiers of old document types that have no common form. -/
def oldPublicIds : List String := [
  "-//w3o//dtd w3 html strict 3.0//en//", "-/w3c/dtd html 4.0 transitional/en", "html"]

/-- The end of the system identifier of an old document type. -/
def oldSystemIdEnd : String := "/data/dtd/v11/ibmxhtml1-transitional.dtd"

/-- How the titles of old document types begin, by the standards body that wrote them. -/
def oldStandardTitles : List (String × List String) := [
  ("ietf", [
    "dtd html 2.0 level 1//", "dtd html 2.0 level 2//", "dtd html 2.0 strict level 1//",
    "dtd html 2.0 strict level 2//", "dtd html 2.0 strict//", "dtd html 2.0//", "dtd html 2.1e//",
    "dtd html 3.0//", "dtd html 3.2 final//", "dtd html 3.2//", "dtd html 3//",
    "dtd html level 0//", "dtd html level 1//", "dtd html level 2//", "dtd html level 3//",
    "dtd html strict level 0//", "dtd html strict level 1//", "dtd html strict level 2//",
    "dtd html strict level 3//", "dtd html strict//", "dtd html//"]),
  ("w3c", [
    "dtd html 3 1995-03-24//", "dtd html 3.2 draft//", "dtd html 3.2 final//", "dtd html 3.2//",
    "dtd html 3.2s draft//", "dtd html 4.0 frameset//", "dtd html 4.0 transitional//",
    "dtd html experimental 19960712//", "dtd html experimental 970421//", "dtd w3 html//"]),
  ("w3o", ["dtd w3 html 3.0//"])]

/-- How the titles of old document types begin that no standards body wrote.  They are taken for old
ones whoever the owner is. -/
def oldOtherTitles : List String := [
  "dtd html pro v0r11 19970101//", "dtd html 3.0 aswedit + extensions//",
  "dtd metrius presentational//", "dtd internet explorer 2.0 html strict//",
  "dtd internet explorer 2.0 html//", "dtd internet explorer 2.0 tables//",
  "dtd internet explorer 3.0 html strict//", "dtd internet explorer 3.0 html//",
  "dtd internet explorer 3.0 tables//", "dtd html//", "dtd strict html//", "dtd html 2.0//",
  "dtd html extended 1.0//", "dtd html extended relaxed 1.0//",
  "dtd hotmetal pro 6.0::19990601::extensions to html 4.0//",
  "dtd hotmetal pro 4.0::19971010::extensions to html 4.0//", "dtd html 2.0 extended//",
  "dtd html 2.0 hotmetal + extensions//", "dtd hotjava html//", "dtd hotjava strict html//",
  "dtd mozilla html 2.0//", "dtd mozilla html//"]

/-- How public identifiers begin that are old ones when no system identifier follows. -/
def oldAloneStarts : List String := [
  "-//w3c//dtd html 4.01 frameset//", "-//w3c//dtd html 4.01 transitional//"]

/-- Whether a text begins with one of some texts. -/
def beginsWithOne (starts : List String) (cs : List Char) : Bool :=
  starts.any fun s => s.toList.isPrefixOf cs

/-- Whether the title in a public identifier, behind its sign and its owner, is an old one. -/
def hasOldTitle (publicId : List Char) : Bool :=
  let (sign, rest) := cutAround "//".toList publicId
  let (owner, title) := cutAround "//".toList rest
  match oldStandardTitles.lookup (String.ofList owner) with
  | some titles => sign == ['-'] && beginsWithOne titles title
  | none => (sign == ['-'] || sign == ['+']) && beginsWithOne oldOtherTitles title

/-- Whether a page with this document type is laid out by the rules of old pages. -/
def Doctype.isOld (d : Doctype) : Bool :=
  let lower (s : Option String) : Option (List Char) := s.map fun t => t.toList.map Char.toLower
  let publicId := lower d.publicId
  d.isBroken || d.name != some "html" ||
    (publicId.any fun p => oldPublicIds.any (·.toList == p)) ||
    (lower d.systemId).any (oldSystemIdEnd.toList.isSuffixOf ·) ||
    publicId.any hasOldTitle || (publicId.any (beginsWithOne oldAloneStarts) && d.systemId.isNone)

namespace Builder

/-! ## Contents of the head -/

/-- Closes the innermost template and what is open in it. -/
def closeTemplate (b : Builder) : Builder :=
  if b.hasOpen "template" then
    let b := (b.closeImpliedThoroughly.popThroughName "template").dropToMarker
    { b with templateModes := b.templateModes.tail }.resetMode
  else b

/-- The start tags of the contents of the head. -/
def headNames : List String := [
  "base", "basefont", "bgsound", "link", "meta", "noframes", "script", "style", "template", "title"]

/-- Inserts an element that belongs into the head, by one of its start tags. -/
def insertHeadElement (b : Builder) (t : Tag) : Builder :=
  match t.name with
  | "title" => b.insertText t .rcdata
  | "noframes" => b.insertText t .rawtext
  | "style" => b.insertText t .rawtext
  | "noscript" => b.insertText t .rawtext
  | "script" => b.insertText t (.script .plain)
  | "template" =>
    let b := (b.insert t).addMarker
    { b with
      framesetOk := false
      mode := .inTemplate
      templateModes := .inTemplate :: b.templateModes }
  | _ => b.insertVoid t

/-- A second tag of the root adds the attributes the root does not have. -/
def mergeRoot (b : Builder) (t : Tag) : Builder :=
  match b.root? with
  | some id =>
    if b.hasOpen "template" then b else { b with arena := b.arena.addAttributes id t.attributes }
  | none => b

/-! ## Rules -/

/-- The blanks of HTML. -/
def isSpace (c : Char) : Bool :=
  c == ' ' || c == '\t' || c == '\n' || c == '\x0C' || c == '\r'

def initialRules (b : Builder) (t : Token) : Step :=
  match t with
  | .char c => if isSpace c then b.done else { b with isOldPage := true }.redo .beforeHtml t
  | .comment s => (b.addCommentTo Arena.document s).done
  | _ => { b with isOldPage := true }.redo .beforeHtml t

/-- Puts the root into the document. -/
def createRoot (b : Builder) (t : Tag) : Builder :=
  let p := b.createElement .html t
  { p.1 with arena := p.1.arena.append Arena.document p.2 }.push p.2

/-- The end tags that imply the elements they stand outside of. -/
def isOuterEnd (name : String) : Bool := ["head", "body", "html", "br"].contains name

def beforeHtmlRules (b : Builder) (t : Token) : Step :=
  let other := (b.createRoot (plainTag "html")).redo .beforeHead t
  match t with
  | .char c => if isSpace c then b.done else other
  | .comment s => (b.addCommentTo Arena.document s).done
  | .startTag tag =>
    if tag.name = "html" then { b.createRoot tag with mode := .beforeHead }.done else other
  | .endTag tag => if isOuterEnd tag.name then other else b.done
  | _ => other

/-- Opens the head and keeps it in mind. -/
def openHead (b : Builder) (t : Tag) : Builder :=
  let p := b.insertOpen .html t
  { p.1 with head := some p.2 }

def beforeHeadRules (b : Builder) (t : Token) : Step :=
  let other := (b.openHead (plainTag "head")).redo .inHead t
  match t with
  | .char c => if isSpace c then b.done else other
  | .comment s => (b.addComment s).done
  | .startTag tag =>
    if tag.name = "html" then (b.mergeRoot tag).done
    else if tag.name = "head" then { b.openHead tag with mode := .inHead }.done
    else other
  | .endTag tag => if isOuterEnd tag.name then other else b.done
  | _ => other

def inHeadRules (b : Builder) (t : Token) : Step :=
  let other := b.pop.redo .afterHead t
  match t with
  | .char c => if isSpace c then (b.addChar c).done else other
  | .comment s => (b.addComment s).done
  | .startTag tag =>
    if tag.name = "html" then (b.mergeRoot tag).done
    else if headNames.contains tag.name || tag.name = "noscript" then
      (b.insertHeadElement tag).done
    else if tag.name = "head" then b.done
    else other
  | .endTag tag =>
    if tag.name = "head" then { b.pop with mode := .afterHead }.done
    else if tag.name = "template" then b.closeTemplate.done
    else if isOuterEnd tag.name then other
    else b.done
  | _ => other

def afterHeadRules (b : Builder) (t : Token) : Step :=
  let other := (b.insertImplied "body").redo .inBody t
  match t with
  | .char c => if isSpace c then (b.addChar c).done else other
  | .comment s => (b.addComment s).done
  | .startTag tag =>
    if tag.name = "html" then (b.mergeRoot tag).done
    else if tag.name = "body" then { b.insert tag with framesetOk := false, mode := .inBody }.done
    else if tag.name = "frameset" then { b.insert tag with mode := .inFrameset }.done
    else if headNames.contains tag.name then
      match b.head with
      | some head => (((b.push head).insertHeadElement tag).dropFromStack head).done
      | none => b.done
    else if tag.name = "head" then b.done
    else other
  | .endTag tag =>
    if tag.name = "template" then b.closeTemplate.done
    else if tag.name != "head" && isOuterEnd tag.name then other
    else b.done
  | _ => other

/-- Text up to its end tag, which the reader has found. -/
def textRules (b : Builder) (t : Token) : Step :=
  match t with
  | .char c => (b.addChar c).done
  | .endTag _ => { b.pop with mode := b.textReturn }.done
  | .eof => b.pop.redo b.textReturn t
  | _ => b.done

end Builder

end ApiDoc.Html
