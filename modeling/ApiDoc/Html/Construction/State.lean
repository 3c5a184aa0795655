import ApiDoc.Html.Arena
import ApiDoc.Html.Token

/-!
# State of tree construction

Tokens are put into the tree one at a time.  The state holds the tree so far, the stack of open
elements (innermost first), the list of formatting elements to be opened anew (latest first), and
the mode, which says by which rules the next token is taken.
-/

namespace ApiDoc.Html

/-- By which rules a token is taken. -/
inductive Mode
  | initial
  | beforeHtml
  | beforeHead
  | inHead
  | afterHead
  | inBody
  | text
  | inTable
  | inTableText
  | inCaption
  | inColumnGroup
  | inTableBody
  | inRow
  | inCell
  | inSelect
  | inSelectInTable
  | inTemplate
  | afterBody
  | inFrameset
  | afterFrameset
  | afterAfterBody
  | afterAfterFrameset
deriving DecidableEq, Inhabited

/-- A formatting element with the tag it was opened by, or a border that none is sought beyond. -/
inductive Formatting
  | marker
  | element (id : NodeId) (tag : Tag)
deriving DecidableEq, Inhabited

structure Builder where
  arena : Arena
  mode : Mode
  /-- The mode to go back to after text. -/
  textReturn : Mode
  /-- The modes of the templates that are open, innermost first. -/
  templateModes : List Mode
  stack : List NodeId
  formatting : List Formatting
  head : Option NodeId
  form : Option NodeId
  /-- Whether a frameset may still take the place of the body. -/
  framesetOk : Bool
  /-- Whether a line feed is dropped if it comes next. -/
  dropsLineFeed : Bool
  /-- Whether content misplaced in a table goes in front of it. -/
  fostering : Bool
  /-- Whether the page is laid out by the rules of old pages. -/
  isOldPage : Bool
  /-- Characters in a table that wait for the next tag. -/
  tableText : List Char
  /-- The element whose content is read, when it is no whole page. -/
  context : Option String
  /-- How the text that follows is cut into tokens. -/
  content : Content

/-- A state, with a token that has to be taken again. -/
abbrev Step := Builder × Option Token

namespace Builder

def start : Builder where
  arena := .start
  mode := .initial
  textReturn := .initial
  templateModes := []
  stack := []
  formatting := []
  head := none
  form := none
  framesetOk := true
  dropsLineFeed := false
  fostering := false
  isOldPage := false
  tableText := []
  context := none
  content := .data

/-- The token is dealt with. -/
def done (b : Builder) : Step := (b, none)

/-- The token is taken again in another mode. -/
def redo (b : Builder) (mode : Mode) (t : Token) : Step := ({ b with mode := mode }, some t)

/-! ## Elements -/

/-- Whether a node is an element of HTML with one of some names. -/
def isOneOf (b : Builder) (names : List String) (id : NodeId) : Bool :=
  match b.arena.elementName? id with
  | some (.html, name) => names.contains name
  | _ => false

def isNamed (b : Builder) (name : String) (id : NodeId) : Bool := b.isOneOf [name] id

def current? (b : Builder) : Option NodeId := b.stack.head?

def currentIsOneOf (b : Builder) (names : List String) : Bool :=
  b.current?.any (b.isOneOf names)

def currentIs (b : Builder) (name : String) : Bool := b.currentIsOneOf [name]

/-- Whether an element with a name is open. -/
def hasOpen (b : Builder) (name : String) : Bool := b.stack.any (b.isNamed name)

def isFragment (b : Builder) : Bool := b.context.isSome

/-- The root element. -/
def root? (b : Builder) : Option NodeId := b.stack.getLast?

/-- The body, if it is open just inside the root. -/
def body? (b : Builder) : Option NodeId :=
  match b.stack.reverse with
  | _ :: id :: _ => if b.isNamed "body" id then some id else none
  | _ => none

/-! ## Scopes -/

/-- The elements of MathML that hold text. -/
def mathTextNames : List String := ["mi", "mo", "mn", "ms", "mtext"]

/-- The elements of SVG that hold HTML. -/
def svgHtmlNames : List String := ["foreignObject", "desc", "title"]

/-- Whether an element bounds the common scope, or one of more names does. -/
def isScopeBound (b : Builder) (more : List String) (id : NodeId) : Bool :=
  match b.arena.elementName? id with
  | some (.html, name) =>
    ["applet", "caption", "html", "table", "td", "th", "marquee", "object", "template"].contains
      name || more.contains name
  | some (.mathml, name) => mathTextNames.contains name
  | some (.svg, name) => svgHtmlNames.contains name
  | none => false

/-- Whether an element with a property is open and no bound lies further in. -/
def hasWithin (bound found : NodeId → Bool) : List NodeId → Bool
  | [] => false
  | id :: r => found id || (!bound id && hasWithin bound found r)

/-- Whether an element with a property is in the common scope. -/
def scopeHas (b : Builder) (found : NodeId → Bool) : Bool :=
  hasWithin (b.isScopeBound []) found b.stack

def inScope (b : Builder) (name : String) : Bool := b.scopeHas (b.isNamed name)

def inListScope (b : Builder) (name : String) : Bool :=
  hasWithin (b.isScopeBound ["ol", "ul"]) (b.isNamed name) b.stack

def inButtonScope (b : Builder) (name : String) : Bool :=
  hasWithin (b.isScopeBound ["button"]) (b.isNamed name) b.stack

/-- Whether one of some names is in the scope of tables. -/
def inTableScope (b : Builder) (names : List String) : Bool :=
  hasWithin (b.isOneOf ["html", "table", "template"]) (b.isOneOf names) b.stack

def inSelectScope (b : Builder) (name : String) : Bool :=
  hasWithin (fun id => !b.isOneOf ["optgroup", "option"] id) (b.isNamed name) b.stack

/-! ## Stack -/

def push (b : Builder) (id : NodeId) : Builder := { b with stack := id :: b.stack }

def pop (b : Builder) : Builder := { b with stack := b.stack.tail }

/-- Takes an element off the stack, wherever it is. -/
def dropFromStack (b : Builder) (id : NodeId) : Builder :=
  { b with stack := b.stack.filter (· != id) }

/-- Closes elements up to one with a property, that one included. -/
def popThrough (b : Builder) (isLast : NodeId → Bool) : Builder :=
  { b with stack := (b.stack.dropWhile fun id => !isLast id).tail }

def popThroughName (b : Builder) (name : String) : Builder := b.popThrough (b.isNamed name)

/-- Closes elements until one of some names is the current one. -/
def popTo (b : Builder) (names : List String) : Builder :=
  { b with stack := b.stack.dropWhile fun id => !b.isOneOf names id }

/-- The elements whose end tags may be left out. -/
def impliedEnds : List String :=
  ["dd", "dt", "li", "option", "optgroup", "p", "rb", "rp", "rt", "rtc"]

/-- Closes the current elements that end by themselves. -/
def closeImplied (b : Builder) : Builder :=
  { b with stack := b.stack.dropWhile (b.isOneOf impliedEnds) }

/-- Closes the current elements that end by themselves, but none with a name. -/
def closeImpliedExcept (b : Builder) (name : String) : Builder :=
  { b with stack := b.stack.dropWhile (b.isOneOf (impliedEnds.filter (· != name))) }

/-- Closes the current elements that end by themselves in a template. -/
def closeImpliedThoroughly (b : Builder) : Builder :=
  { b with stack := b.stack.dropWhile (b.isOneOf
      (impliedEnds ++ ["caption", "colgroup", "tbody", "td", "tfoot", "th", "thead", "tr"])) }

/-- Closes a paragraph and what is open in it. -/
def closeParagraph (b : Builder) : Builder := (b.closeImpliedExcept "p").popThroughName "p"

/-- Closes the paragraph that is open in the button scope, if there is one. -/
def closeOpenParagraph (b : Builder) : Builder :=
  if b.inButtonScope "p" then b.closeParagraph else b

/-! ## Inserting -/

/-- Where a node goes: at the end of an element, or in front of one of its children. -/
inductive Spot
  | atEnd (parent : NodeId)
  | before (sibling : NodeId)

/-- The elements of a table that hold no content of their own. -/
def tableNames : List String := ["table", "tbody", "tfoot", "thead", "tr"]

/-- The place for the contents of an element: those of a template go into its fragment. -/
def contentsOf (b : Builder) (id : NodeId) : NodeId :=
  if b.isNamed "template" id then ((b.arena.children id)[0]?).getD id else id

/-- The place for content that a table cannot hold: in front of the innermost table, or at the end
of a template inside it. -/
def fosterSpot (b : Builder) : List NodeId → Spot
  | [] => .atEnd (b.root?.getD Arena.document)
  | id :: r =>
    if b.isNamed "template" id then .atEnd (b.contentsOf id)
    else if b.isNamed "table" id then
      if (b.arena.parent? id).isSome then .before id else .atEnd (r.head?.getD Arena.document)
    else b.fosterSpot r

/-- The place for a node that belongs into a target. -/
def spotIn (b : Builder) (target : NodeId) : Spot :=
  if b.fostering && b.isOneOf tableNames target then b.fosterSpot b.stack
  else .atEnd (b.contentsOf target)

/-- The place for the next node. -/
def spot (b : Builder) : Spot := b.spotIn (b.current?.getD Arena.document)

/-- Puts a node at a place. -/
def place (b : Builder) (spot : Spot) (id : NodeId) : Builder :=
  match spot with
  | .atEnd parent => { b with arena := b.arena.append parent id }
  | .before sibling => { b with arena := b.arena.insertBefore sibling id }

/-- Adds a character to the text at the current place. -/
def addChar (b : Builder) (c : Char) : Builder :=
  let (parent, sibling) := match b.spot with
    | .atEnd parent => (parent, none)
    | .before sibling => ((b.arena.parent? sibling).getD Arena.document, some sibling)
  match b.arena.textBefore? parent sibling with
  | some id => { b with arena := b.arena.pushChar id c }
  | none =>
    let p := b.arena.create (.text c.toString)
    { b with arena := p.1 }.place b.spot p.2

/-- Adds a comment at the current place. -/
def addComment (b : Builder) (content : String) : Builder :=
  let p := b.arena.create (.comment content)
  { b with arena := p.1 }.place b.spot p.2

/-- Adds a comment at the end of a node. -/
def addCommentTo (b : Builder) (parent : NodeId) (content : String) : Builder :=
  let p := b.arena.create (.comment content)
  { b with arena := p.1.append parent p.2 }

/-- A new element; a template has a fragment for its contents. -/
def createElement (b : Builder) (vocabulary : Vocabulary) (t : Tag) : Builder × NodeId :=
  let p := b.arena.create (.element vocabulary t.name t.attributes)
  if vocabulary = .html ∧ t.name = "template" then
    let q := p.1.create .fragment
    ({ b with arena := q.1.append p.2 q.2 }, p.2)
  else ({ b with arena := p.1 }, p.2)

/-- Inserts an element without opening it. -/
def insertClosed (b : Builder) (vocabulary : Vocabulary) (t : Tag) : Builder × NodeId :=
  let p := b.createElement vocabulary t
  (p.1.place p.1.spot p.2, p.2)

/-- Inserts an element and opens it. -/
def insertOpen (b : Builder) (vocabulary : Vocabulary) (t : Tag) : Builder × NodeId :=
  let p := b.insertClosed vocabulary t
  (p.1.push p.2, p.2)

/-- Inserts an element of HTML and opens it. -/
def insert (b : Builder) (t : Tag) : Builder := (b.insertOpen .html t).1

/-- Inserts an element of HTML without contents. -/
def insertVoid (b : Builder) (t : Tag) : Builder := (b.insertClosed .html t).1

/-- A tag without attributes. -/
def plainTag (name : String) : Tag := ⟨name, [], false⟩

/-- Inserts an element for which no tag stands on the page, and opens it. -/
def insertImplied (b : Builder) (name : String) : Builder := b.insert (plainTag name)

/-- Inserts an element and reads its text up to its end tag. -/
def insertText (b : Builder) (t : Tag) (content : Content) : Builder :=
  { b.insert t with textReturn := b.mode, mode := .text, content := content }

/-! ## Modes -/

/-- The mode in which a select element is read, given the elements around it. -/
def selectMode (b : Builder) : List NodeId → Mode
  | [] => .inSelect
  | id :: r =>
    if b.isNamed "template" id then .inSelect
    else if b.isNamed "table" id then .inSelectInTable
    else b.selectMode r

/-- The mode an open element calls for, if any. -/
def modeOf? (b : Builder) (isLast : Bool) (name : String) (outer : List NodeId) : Option Mode :=
  match name with
  | "select" => some (b.selectMode outer)
  | "td" => if isLast then none else some .inCell
  | "th" => if isLast then none else some .inCell
  | "tr" => some .inRow
  | "tbody" => some .inTableBody
  | "thead" => some .inTableBody
  | "tfoot" => some .inTableBody
  | "caption" => some .inCaption
  | "colgroup" => some .inColumnGroup
  | "table" => some .inTable
  | "template" => some (b.templateModes.head?.getD .inTemplate)
  | "head" => if isLast then none else some .inHead
  | "body" => some .inBody
  | "frameset" => some .inFrameset
  | "html" => some (if b.head.isSome then .afterHead else .beforeHead)
  | _ => none

/-- The mode the open elements call for, the innermost first; the element whose content is read
stands for the outermost. -/
def modeFor (b : Builder) : List NodeId → Mode
  | [] => .inBody
  | id :: r =>
    let isLast := r.isEmpty
    let name := match if isLast then b.context else none with
      | some c => some (Vocabulary.html, c)
      | none => b.arena.elementName? id
    match name with
    | some (.html, n) => (b.modeOf? isLast n r).getD (b.modeFor r)
    | _ => b.modeFor r

/-- Sets the mode the open elements call for. -/
def resetMode (b : Builder) : Builder := { b with mode := b.modeFor b.stack }

end Builder

end ApiDoc.Html
