import ApiDoc.ClassModel
import ApiDoc.Declaration
import ApiDoc.Html.Document
import ApiDoc.Token.Markup

/-!
# Class pages

A class page names the class in its heading, states its kind and supertypes in a definition list
behind the next rule, and declares its members in three sections.  A section begins at a named
anchor and ends at the anchor of a later section or at the bottom navigation bar; in it, each
declaration is the first `pre` behind an `h3`.
-/

namespace ApiDoc

/-! ## Sections -/

/-- The sections of a class page, in page order. -/
inductive Section
  | field
  | constructor
  | method
deriving DecidableEq, Inhabited

/-- The anchor of the navigation bar at the bottom. -/
def navigationAnchor : String := "navbar_bottom"

namespace Section

/-- The anchor at which a section begins. -/
def anchor : Section → String
  | .field => "field_detail"
  | .constructor => "constructor_detail"
  | .method => "method_detail"

/-- The anchors at which a section ends. -/
def stops : Section → List String
  | .field => [constructor.anchor, method.anchor, navigationAnchor]
  | .constructor => [method.anchor, navigationAnchor]
  | .method => [navigationAnchor]

def name : Section → String
  | .field => "field"
  | .constructor => "constructor"
  | .method => "method"

end Section

/-! ## What can be wrong with a page -/

inductive PageError
  | missingHeading
  | missingDefinition
  | header (source : DeclarationError)
  /-- The declaration with a number in a section, counted from zero, cannot be read. -/
  | declaration (block : Section) (index : Nat) (source : DeclarationError)
deriving DecidableEq

namespace PageError

def message : PageError → String
  | .missingHeading => "page has no class heading"
  | .missingDefinition => "page has no class definition after its heading"
  | .header source => "malformed class header: " ++ source.message
  | .declaration block index source =>
    "malformed " ++ block.name ++ " declaration #" ++ toString index ++ ": " ++ source.message

end PageError

/-! ## The body of a page -/

namespace Html.Node

/-- The elements on the top level of the body. -/
def bodyElements (page : Node) : List Node :=
  match page.childElements.find? (·.hasName "body") with
  | some body => body.childElements
  | none => []

mutual

/-- Whether a node is the anchor with a name, or a paragraph around it. -/
def isAnchor (anchor : String) : Node → Bool
  | .element name attributes children =>
    if name = "a" then (Node.element name attributes children).attribute? "name" == some anchor
    else if name = "p" then anyIsAnchor anchor children
    else false
  | .text _ => false
  | .comment _ => false
  | .fragment _ => false
termination_by structural n => n

/-- Whether an anchor is among nodes. -/
def anyIsAnchor (anchor : String) : List Node → Bool
  | [] => false
  | n :: r => isAnchor anchor n || anyIsAnchor anchor r
termination_by structural l => l

end

end Html.Node

open Html (Node)

/-! ## Heading and definition -/

/-- The package in a heading is the text of its first element. -/
def headingPackage (heading : Node) : String :=
  match heading.childElements with
  | [] => ""
  | first :: _ => String.ofList first.trimmedText

/-- The text of a node that ends a heading. -/
def headingText? : Node → Option (List Char)
  | .element name attributes children => some (Node.element name attributes children).trimmedText
  | .text content => some (plainSpaces content.toList)
  | .comment _ => none
  | .fragment _ => none

/-- The name in a heading is the last word of its last node. -/
def headingName? (heading : Node) : Option String := do
  let last ← (← heading.children.getLast?) |> headingText?
  let name ← (Text.words last).getLast?
  return String.ofList name

/-- The elements of a body from its heading on. -/
def fromHeading (body : List Node) : List Node := body.dropWhile (!·.hasName "h2")

/-- The definition list behind the first rule. -/
def definition? (afterHeading : List Node) : Option Node :=
  (afterHeading.dropWhile (!·.hasName "hr")).find? (·.hasName "dl")

/-- The tokens of a definition list: those of its terms, or of all of it if it has none. -/
def lexDefinition (package : String) (definition : Node) :
    Except DeclarationError (List Token) :=
  match definition.childElements.filter (·.hasName "dt") with
  | [] => lexElement package definition
  | terms => do
    let tokens ← terms.mapM (lexElement package)
    return tokens.flatten

/-! ## Members -/

/-- The first `pre` behind each `h3`; `awaited` says whether one is looked for. -/
def declarationBlocks (awaited : Bool) : List Node → List Node
  | [] => []
  | n :: r =>
    if n.hasName "h3" then declarationBlocks true r
    else if n.hasName "pre" && awaited then n :: declarationBlocks false r
    else declarationBlocks awaited r

/-- The elements of a section. -/
def sectionElements (s : Section) (body : List Node) : List Node :=
  ((body.dropWhile (!·.isAnchor s.anchor)).drop 1).takeWhile fun n => !s.stops.any n.isAnchor

/-- The declarations of a section. -/
def sectionBlocks (s : Section) (body : List Node) : List Node :=
  declarationBlocks false (sectionElements s body)

/-- Reads the declarations of a section. -/
def readSection {α : Type} (s : Section) (package : String)
    (readMember : List Token → String → Except DeclarationError α) (body : List Node) :
    Except PageError (List α) :=
  (sectionBlocks s body).zipIdx.mapM fun (block, index) =>
    (do readMember (← lexElement package block) package : Except DeclarationError α).mapError
      (.declaration s index)

/-! ## Pages -/

/-- Reads the class a page declares. -/
def readClassTree (page : Node) : Except PageError ClassDecl := do
  let body := page.bodyElements
  let some heading := (fromHeading body).head? | throw .missingHeading
  let package := headingPackage heading
  let some name := headingName? heading | throw .missingHeading
  let some definition := definition? (fromHeading body) | throw .missingDefinition
  let tokens ← (lexDefinition package definition).mapError .header
  let header ← (readClassHeader tokens package).mapError .header
  let fields ← readSection .field package readField body
  let constructors ← readSection .constructor package readConstructor body
  let methods ← readSection .method package readMethod body
  return {
    package := package
    name := name
    kind := header.kind
    parent := header.parent
    implements := header.implements
    fields := fields
    constructors := constructors
    methods := methods }

/-- Reads the class the text of a page declares. -/
def readClassPage (text : List Char) : Except PageError ClassDecl :=
  readClassTree (Html.readPage text)

end ApiDoc
