import ApiDoc.Html.Construction.State

/-!
# Formatting elements

Formatting elements that are closed by the end of a block are opened again in the next one.  An end
tag that crosses other elements cuts the tree so that the formatting ends where the tag stands.
-/

namespace ApiDoc.Html

/-- The elements that ordinary end tags do not reach beyond. -/
def specialNames : List String := [
  "address", "applet", "area", "article", "aside", "base", "basefont", "bgsound", "blockquote",
  "body", "br", "button", "caption", "center", "col", "colgroup", "dd", "details", "dir", "div",
  "dl", "dt", "embed", "fieldset", "figcaption", "figure", "footer", "form", "frame", "frameset",
  "h1", "h2", "h3", "h4", "h5", "h6", "head", "header", "hgroup", "hr", "html", "iframe", "img",
  "input", "isindex", "li", "link", "listing", "main", "marquee", "menu", "meta", "nav", "noembed",
  "noframes", "noscript", "object", "ol", "p", "param", "plaintext", "pre", "script", "section",
  "select", "source", "style", "summary", "table", "tbody", "td", "template", "textarea", "tfoot",
  "th", "thead", "title", "tr", "track", "ul", "wbr", "xmp"]

namespace Formatting

def isMarker : Formatting → Bool
  | .marker => true
  | _ => false

/-- Whether this is the entry of an element. -/
def isFor (f : Formatting) (id : NodeId) : Bool :=
  match f with
  | .element e _ => e == id
  | .marker => false

end Formatting

/-- Whether two tags have the same name and the same attributes in any order. -/
def Tag.isLike (s t : Tag) : Bool :=
  s.name == t.name && s.attributes.length == t.attributes.length &&
    s.attributes.all t.attributes.contains

namespace Builder

/-! ## The list -/

def addMarker (b : Builder) : Builder := { b with formatting := .marker :: b.formatting }

/-- Drops the entries up to the latest marker, the marker included. -/
def dropToMarker (b : Builder) : Builder :=
  { b with formatting := (b.formatting.dropWhile fun f => !f.isMarker).tail }

/-- The entries since the latest marker. -/
def sinceMarker (b : Builder) : List Formatting := b.formatting.takeWhile fun f => !f.isMarker

def isFormatting (b : Builder) (id : NodeId) : Bool := b.formatting.any (·.isFor id)

def dropFormatting (b : Builder) (id : NodeId) : Builder :=
  { b with formatting := b.formatting.filter fun f => !f.isFor id }

/-- Of more than three equal entries since the marker, the earliest goes. -/
def dropFourth (b : Builder) (t : Tag) : Builder :=
  let alike := b.sinceMarker.filterMap fun f => match f with
    | .element id s => if s.isLike t then some id else none
    | .marker => none
  match alike.getLast? with
  | some id => if alike.length ≥ 3 then b.dropFormatting id else b
  | none => b

/-- Inserts a formatting element and lists it. -/
def insertFormatting (b : Builder) (t : Tag) : Builder :=
  let p := (b.dropFourth t).insertOpen .html t
  { p.1 with formatting := .element p.2 t :: p.1.formatting }

/-- Whether an entry needs no opening. -/
def isMarkerOrOpen (b : Builder) : Formatting → Bool
  | .marker => true
  | .element id _ => b.stack.contains id

/-- Opens entries anew, the earliest first, and gives the entries that take their places. -/
def reopenAll (b : Builder) : List Formatting → Builder × List Formatting
  | [] => (b, [])
  | .marker :: r => b.reopenAll r
  | .element _ t :: r =>
    let p := b.insertOpen .html t
    let q := p.1.reopenAll r
    (q.1, .element p.2 t :: q.2)

/-- Opens the formatting elements that were closed since the last one that is open. -/
def reopenFormatting (b : Builder) : Builder :=
  let closed := b.formatting.takeWhile fun f => !b.isMarkerOrOpen f
  let kept := b.formatting.dropWhile fun f => !b.isMarkerOrOpen f
  let p := b.reopenAll closed.reverse
  { p.1 with formatting := p.2.reverse ++ kept }

/-! ## Misnested end tags -/

/-- Closes the innermost element an ordinary end tag belongs to; a special element bars the way. -/
def closeOrdinary (b : Builder) (name : String) : Builder :=
  let isEnd (id : NodeId) : Bool := b.isNamed name id || b.isOneOf specialNames id
  match b.stack.dropWhile fun id => !isEnd id with
  | [] => b
  | id :: outer => if b.isNamed name id then { b with stack := outer } else b

/-- The state while the elements between a formatting element and a block are cloned. -/
structure Cloning where
  builder : Builder
  /-- The clones that stay on the stack, innermost first. -/
  kept : List NodeId
  /-- The node that goes into the next clone. -/
  last : NodeId
  /-- The entry behind which the clone of the formatting element is listed, if any. -/
  bookmark : Option NodeId
  count : Nat

/-- Clones one element between the formatting element and the block; those that are not listed as
formatting, and those beyond the third, leave the stack. -/
def cloneBetween (block : NodeId) (s : Cloning) (id : NodeId) : Cloning :=
  let count := s.count + 1
  if count > 3 then { s with builder := s.builder.dropFormatting id, count := count }
  else
    match s.builder.formatting.find? (·.isFor id) with
    | some (.element _ t) =>
      let p := s.builder.createElement .html t
      let formatting := p.1.formatting.map fun f => if f.isFor id then .element p.2 t else f
      { builder := { p.1 with
          formatting := formatting
          arena := p.1.arena.append p.2 s.last }
        kept := s.kept ++ [p.2]
        last := p.2
        bookmark := if s.last = block then some p.2 else s.bookmark
        count := count }
    | _ => { s with count := count }

/-- Lists the clone of a formatting element: in its place, or just later than the bookmark. -/
def relist (formatting : List Formatting) (old : NodeId) (bookmark : Option NodeId)
    (clone : Formatting) : List Formatting :=
  match bookmark with
  | none => formatting.map fun f => if f.isFor old then clone else f
  | some mark =>
    (formatting.flatMap fun f => if f.isFor mark then [clone, f] else [f]).filter fun f =>
      !f.isFor old

/-- Cuts the formatting element `old`, opened by `t`, out of the way of a block: what stands in the
block is put into a clone of it. -/
def splitAround (b : Builder) (old : NodeId) (t : Tag) (block : NodeId)
    (inside between outer : List NodeId) : Builder :=
  let s := between.foldl (cloneBetween block) ⟨b, [], block, none, 0⟩
  let b := { s.builder with arena := s.builder.arena.detach s.last }
  let b := b.place (b.spotIn (outer.head?.getD Arena.document)) s.last
  let p := b.createElement .html t
  let arena := (p.1.arena.moveChildren block p.2).append block p.2
  { p.1 with
    arena := arena
    formatting := relist p.1.formatting old s.bookmark (.element p.2 t)
    stack := inside ++ p.2 :: block :: s.kept ++ outer }

/-- What one round of closing a formatting element gives: the state, and whether to go on. -/
def closeFormattingOnce (b : Builder) (name : String) : Builder × Bool :=
  let found := b.sinceMarker.findSome? fun f => match f with
    | .element id t => if t.name = name then some (id, t) else none
    | .marker => none
  match found with
  | none => (b.closeOrdinary name, false)
  | some (old, t) =>
    if !b.stack.contains old then (b.dropFormatting old, false)
    else if !b.scopeHas (· == old) then (b, false)
    else
      let inner := b.stack.takeWhile (· != old)
      let outer := (b.stack.dropWhile (· != old)).tail
      let isSpecial := b.isOneOf specialNames
      match inner.reverse.dropWhile fun id => !isSpecial id with
      | [] => ({ b.dropFormatting old with stack := outer }, false)
      | block :: inside =>
        let between := (inner.reverse.takeWhile fun id => !isSpecial id).reverse
        (b.splitAround old t block inside.reverse between outer, true)

/-- Repeats the rounds of closing a formatting element. -/
def closeFormattingRounds : Nat → Builder → String → Builder
  | 0, b, _ => b
  | n + 1, b, name =>
    match b.closeFormattingOnce name with
    | (b, true) => closeFormattingRounds n b name
    | (b, false) => b

/-- Closes a formatting element, in at most eight rounds. -/
def closeFormatting (b : Builder) (name : String) : Builder :=
  match b.current? with
  | some id =>
    if b.isNamed name id && !b.isFormatting id then b.pop else closeFormattingRounds 8 b name
  | none => b

/-- A link inside a link closes the outer one. -/
def closeOuterLink (b : Builder) : Builder :=
  let found := b.sinceMarker.findSome? fun f => match f with
    | .element id _ => if b.isNamed "a" id then some id else none
    | .marker => none
  match found with
  | none => b
  | some id => ((b.closeFormatting "a").dropFormatting id).dropFromStack id

end Builder

end ApiDoc.Html
