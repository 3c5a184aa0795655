import ApiDoc.Json
import ApiDoc.Registry

/-!
# Writing the registry

A registry is written as one JSON object keyed by full name, or as a summary: the header of each
class with the declarations of its members.
-/

namespace ApiDoc

/-! ## JSON -/

namespace TypeRef

def toJson (t : TypeRef) : Json := .string t.print

/-- An array of types. -/
def listToJson (ts : List TypeRef) : Json := .array (ts.map toJson)

end TypeRef

namespace Flags

def toJson (f : Flags) : Json := .ofStrings f.keywords

end Flags

namespace Argument

def toJson (a : Argument) : Json := .object [("type", a.type.toJson), ("name", .string a.name)]

end Argument

namespace Constructor

def toJson (c : Constructor) : Json :=
  .object [
    ("access", .string c.access.name),
    ("arguments", .array (c.arguments.map Argument.toJson)),
    ("throws", TypeRef.listToJson c.throws.toList)]

end Constructor

namespace Method

def toJson (m : Method) : Json :=
  .object [
    ("access", .string m.access.name),
    ("flags", m.flags.toJson),
    ("name", .string m.name),
    ("return_type", m.returnType.toJson),
    ("arguments", .array (m.arguments.map Argument.toJson)),
    ("throws", TypeRef.listToJson m.throws.toList)]

end Method

namespace Field

/-- The entries a field and a constant have in common. -/
def jsonEntries (f : Field) : List (String × Json) := [
  ("access", .string f.access.name),
  ("flags", f.flags.toJson),
  ("name", .string f.name),
  ("type", f.type.toJson)]

def toJson (f : Field) : Json := .object f.jsonEntries

end Field

namespace Constant

/-- A constant is written as its field with two more entries. -/
def toJson (c : Constant) : Json :=
  .object (c.field.jsonEntries ++
    [("constant_type", .string c.constantType.name), ("value", .ofString? c.value)])

end Constant

namespace ClassModel

def toJson (m : ClassModel) : Json :=
  .object [
    ("package", .string m.package),
    ("name", .string m.name),
    ("kind", .string m.kind.name),
    ("parent", .ofString? (m.parent.map TypeRef.print)),
    ("implements", TypeRef.listToJson m.implements.toList),
    ("constructors", .array (m.constructors.map Constructor.toJson)),
    ("methods", .array (m.methods.map Method.toJson)),
    ("fields", .array (m.fields.map Field.toJson)),
    ("constants", .array (m.constants.map Constant.toJson)),
    ("sources", .ofStrings (m.sources.map (·.text)))]

end ClassModel

namespace Registry

def toJson (r : Registry) : Json := .object (r.classes.entries.map fun e => (e.1, e.2.toJson))

/-- One JSON document and a line break. -/
def printJson (r : Registry) (pretty : Bool) : String :=
  (if pretty then r.toJson.pretty else r.toJson.compact) ++ "\n"

end Registry

/-! ## Summary -/

namespace ClassModel

/-- The declarations of the members: constants, fields, constructors, methods. -/
def memberDeclarations (m : ClassModel) : List String :=
  m.constants.map Constant.print ++ m.fields.map Field.print ++
    m.constructors.map (·.print m.name) ++ m.methods.map Method.print

/-- The header of the class, and a line for each member between braces. -/
def printSummary (m : ClassModel) : String :=
  m.printHeader ++ " \x7b\n" ++
    String.join (m.memberDeclarations.map fun d => "    " ++ d ++ ";\n") ++ "\x7d\n"

end ClassModel

namespace Registry

/-- The summaries of the classes with an empty line between them. -/
def printSummary (r : Registry) : String :=
  "\n".intercalate (r.models.map ClassModel.printSummary)

end Registry

/-! ## Formats -/

/-- How a registry is written. -/
inductive OutputFormat
  | json
  | summary
deriving DecidableEq, Inhabited

namespace OutputFormat

def name : OutputFormat → String
  | .json => "json"
  | .summary => "summary"

/-- The name under which a text is looked up: without blanks at its ends, ASCII letters small. -/
def lookupName (text : String) : String :=
  String.ofList ((Text.trim text.toList).map Char.toLower)

/-- The format a text names; the name that is looked up if it is none. -/
def parse (text : String) : Except String OutputFormat :=
  let name := lookupName text
  if name = json.name then .ok .json
  else if name = summary.name then .ok .summary
  else .error name

/-- What is said of a name that is no format. -/
def unknownMessage (name : String) : String :=
  "unknown output format `" ++ name ++ "` (expected json or summary)"

/-- The text of a registry; JSON is laid out. -/
def print (f : OutputFormat) (r : Registry) : String :=
  match f with
  | .json => r.printJson true
  | .summary => r.printSummary

end OutputFormat

end ApiDoc
