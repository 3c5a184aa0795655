import ApiDoc.Html.Node

/-!
# Trees under construction

While a page is read, its nodes are kept in a table and known by their places, so that they can be
moved.  `Arena.toNode` gives the finished tree below a node.
-/

namespace ApiDoc.Html

/-- The vocabulary an element belongs to. -/
inductive Vocabulary
  | html
  | svg
  | mathml
deriving DecidableEq, Inhabited

/-- The place of a node in the table. -/
abbrev NodeId := Nat

/-- What a node is, apart from its place in the tree. -/
inductive NodeKind
  | document
  | element (vocabulary : Vocabulary) (name : String) (attributes : List (String × String))
  | text (content : String)
  | comment (content : String)
  | fragment
deriving Inhabited

structure Entry where
  kind : NodeKind
  parent : Option NodeId
  children : Array NodeId
deriving Inhabited

/-- The nodes by their places; the first one is the document. -/
structure Arena where
  entries : Array Entry

namespace Arena

def start : Arena := ⟨#[⟨.document, none, #[]⟩]⟩

/-- The place of the document. -/
def document : NodeId := 0

def kind (a : Arena) (id : NodeId) : NodeKind :=
  match a.entries[id]? with
  | some e => e.kind
  | none => .document

def children (a : Arena) (id : NodeId) : Array NodeId :=
  match a.entries[id]? with
  | some e => e.children
  | none => #[]

def parent? (a : Arena) (id : NodeId) : Option NodeId := a.entries[id]?.bind (·.parent)

/-- The vocabulary and name of an element. -/
def elementName? (a : Arena) (id : NodeId) : Option (Vocabulary × String) :=
  match a.kind id with
  | .element vocabulary name _ => some (vocabulary, name)
  | _ => none

/-- A new node without a place in the tree. -/
def create (a : Arena) (kind : NodeKind) : Arena × NodeId :=
  (⟨a.entries.push ⟨kind, none, #[]⟩⟩, a.entries.size)

/-- Takes a node out of the tree, with what is below it. -/
def detach (a : Arena) (id : NodeId) : Arena :=
  match a.parent? id with
  | none => a
  | some p =>
    ⟨(a.entries.modify p fun e => { e with children := e.children.filter (· != id) }).modify id
      fun e => { e with parent := none }⟩

/-- Puts a node at the end of the children of another. -/
def append (a : Arena) (parent id : NodeId) : Arena :=
  let a := a.detach id
  ⟨(a.entries.modify parent fun e => { e with children := e.children.push id }).modify id
    fun e => { e with parent := some parent }⟩

/-- Puts a node in front of one of the children of its parent. -/
def insertBefore (a : Arena) (sibling id : NodeId) : Arena :=
  let a := a.detach id
  match a.parent? sibling with
  | none => a
  | some p =>
    ⟨(a.entries.modify p fun e =>
        { e with children := e.children.flatMap fun c => if c = sibling then #[id, c] else #[c] })
      |>.modify id fun e => { e with parent := some p }⟩

/-- Moves all children of one node to the end of those of another. -/
def moveChildren (a : Arena) (source target : NodeId) : Arena :=
  (a.children source).foldl (fun a id => a.append target id) a

/-- The text node just before a child, if there is one; the last child counts as standing before
nothing. -/
def textBefore? (a : Arena) (parent : NodeId) (sibling : Option NodeId) : Option NodeId :=
  let before := match sibling with
    | none => (a.children parent).back?
    | some s => ((a.children parent).toList.takeWhile (· != s)).getLast?
  before.filter fun id => match a.kind id with
    | .text _ => true
    | _ => false

/-- Adds a character to a text node. -/
def pushChar (a : Arena) (id : NodeId) (c : Char) : Arena :=
  ⟨a.entries.modify id fun e => { e with
    kind := match e.kind with
      | .text content => .text (content.push c)
      | k => k }⟩

/-- Adds attributes an element does not have. -/
def addAttributes (a : Arena) (id : NodeId) (more : List (String × String)) : Arena :=
  ⟨a.entries.modify id fun e => { e with
    kind := match e.kind with
      | .element vocabulary name attributes =>
        .element vocabulary name
          (attributes ++ more.filter fun m => !attributes.any (·.1 == m.1))
      | k => k }⟩

/-- The tree below a node, up to a depth that no tree of this table exceeds. -/
def toNodeWithin (a : Arena) : Nat → NodeId → Node
  | 0, _ => .fragment []
  | n + 1, id =>
    let below := (a.children id).toList.map (a.toNodeWithin n)
    match a.kind id with
    | .document => .fragment below
    | .element _ name attributes => .element name attributes below
    | .text content => .text content
    | .comment content => .comment content
    | .fragment => .fragment below

/-- The tree below a node. -/
def toNode (a : Arena) (id : NodeId) : Node := a.toNodeWithin (a.entries.size + 1) id

end Arena

end ApiDoc.Html
