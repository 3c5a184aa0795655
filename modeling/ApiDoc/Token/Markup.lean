import ApiDoc.Html.Node
import ApiDoc.Link
import ApiDoc.Token

/-!
# Tokens of marked up declarations

A declaration on a page is a tree of elements.  A link stands for the type it leads to, whatever
its text says.  An element without links whose text is at most one token is read as that text; any
other element is read child by child.  Behind the first `=` all is text of the literal.
-/

namespace ApiDoc

namespace Html.Node

/-- The target of a hyperlink. -/
def href? (n : Node) : Option String := if n.hasName "a" then n.attribute? "href" else none

/-- Whether an element is a hyperlink or contains one. -/
def containsLink (n : Node) : Bool := n.elements.any fun e => e.href?.isSome

end Html.Node

mutual

/-- The tokens a node adds, and the state after it. -/
def lexNode (package : String) (state : LexState) :
    Html.Node → Except DeclarationError (List Token × LexState)
  | .text content => .ok (lexText state content.toList)
  | .comment _ => .ok ([], state)
  | .fragment _ => .ok ([], state)
  | .element name attributes children =>
    let node := Html.Node.element name attributes children
    if state.isSome then .ok (lexText state node.textContent)
    else
      match node.href? with
      | some href => (resolveLink package href).map fun q => ([.ref q], none)
      | none =>
        let flat := tokenizeChars node.textContent
        if 1 < flat.length || node.containsLink then lexNodes package none children
        else .ok (flat, none)
termination_by structural n => n

/-- The tokens a list of nodes adds, and the state after them. -/
def lexNodes (package : String) (state : LexState) :
    List Html.Node → Except DeclarationError (List Token × LexState)
  | [] => .ok ([], state)
  | n :: r => do
    let (first, between) ← lexNode package state n
    let (more, after) ← lexNodes package between r
    return (first ++ more, after)
termination_by structural l => l

end

/-- The tokens of the declaration in an element on a page of `package`. -/
def lexElement (package : String) (element : Html.Node) :
    Except DeclarationError (List Token) := do
  let (ts, state) ← lexNodes package none element.children
  return ts ++ literalTokens state

end ApiDoc
