import ApiDoc.Html.Construction.Rules

/-!
# Reading pages

A page is read into the tree of its root element.  A piece of a page is read as the contents of a
body.
-/

namespace ApiDoc.Html

/-- The name of the latest start tag among tokens, or the one before. -/
def latestStart (before : String) (ts : List Token) : String :=
  ts.foldl (fun name t => match t with
    | .startTag tag => tag.name
    | _ => name) before

namespace Builder

/-- Reads a text to its end.  Each reading but the last takes at least one character, so the length
of the text bounds their number. -/
def readWithin : Nat → Builder → String → List Char → Builder
  | 0, b, _, _ => b
  | n + 1, b, element, cs =>
    let (ts, content, rest) := Token.read b.content element b.isInForeign cs
    let b := ts.foldl take { b with content := content }
    if ts.contains .eof then b else readWithin n b (latestStart element ts) rest

def read (b : Builder) (text : List Char) : Builder :=
  let cs := normalizeInput text
  readWithin (cs.length + 1) b "" cs

/-- The root element of the tree. -/
def rootNode (b : Builder) : Node :=
  let isElement (id : NodeId) : Bool := (b.arena.elementName? id).isSome
  match (b.arena.children Arena.document).toList.find? isElement with
  | some id => b.arena.toNode id
  | none => .element "html" [] []

/-- The state before a piece of a page: the root is open, and a body stands around it. -/
def startInBody : Builder :=
  let b := start.createRoot (plainTag "html")
  { b with context := some "body" }.resetMode

end Builder

/-- The root element of a page. -/
def readPage (text : List Char) : Node := (Builder.start.read text).rootNode

/-- The root element around a piece of a page. -/
def readFragment (text : List Char) : Node := (Builder.startInBody.read text).rootNode

end ApiDoc.Html
