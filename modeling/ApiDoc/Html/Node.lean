import ApiDoc.Text.Blank

/-!
# Nodes of a page

A page is a tree of elements, texts and comments.  A fragment holds the contents of a template: its
texts and elements belong to the tree, but they are no children of the template element.
-/

namespace ApiDoc.Html

inductive Node
  | element (name : String) (attributes : List (String × String)) (children : List Node)
  | text (content : String)
  | comment (content : String)
  | fragment (children : List Node)
deriving Inhabited

namespace Node

def isElement : Node → Bool
  | .element _ _ _ => true
  | _ => false

/-- The name of an element; other nodes have none. -/
def name? : Node → Option String
  | .element name _ _ => some name
  | _ => none

/-- Whether a node is an element with a name. -/
def hasName (n : Node) (name : String) : Bool := n.name? == some name

def children : Node → List Node
  | .element _ _ children => children
  | .fragment children => children
  | _ => []

/-- The children that are elements. -/
def childElements (n : Node) : List Node := n.children.filter isElement

/-- The value of the first attribute with a name. -/
def attribute? (n : Node) (name : String) : Option String :=
  match n with
  | .element _ attributes _ => (attributes.find? (·.1 == name)).map (·.2)
  | _ => none

mutual

/-- All text in a node, in document order. -/
def textContent : Node → List Char
  | .element _ _ children => textAll children
  | .text content => content.toList
  | .comment _ => []
  | .fragment children => textAll children
termination_by structural n => n

/-- All text in a list of nodes, in document order. -/
def textAll : List Node → List Char
  | [] => []
  | n :: r => textContent n ++ textAll r
termination_by structural l => l

end

mutual

/-- The elements in a node, itself included, in document order. -/
def elements : Node → List Node
  | .element name attributes children => .element name attributes children :: elementsAll children
  | .text _ => []
  | .comment _ => []
  | .fragment children => elementsAll children
termination_by structural n => n

/-- The elements in a list of nodes, in document order. -/
def elementsAll : List Node → List Node
  | [] => []
  | n :: r => elements n ++ elementsAll r
termination_by structural l => l

end

/-- The text with plain spaces, without blanks at its ends. -/
def trimmedText (n : Node) : List Char :=
  Text.trim (n.textContent.map fun c => if c = '\u00A0' then ' ' else c)

end Node

end ApiDoc.Html
