import ApiDoc.ClassModel
import ApiDoc.Ordered.Map

/-!
# Filling in constant values

A table of values gives each name to the first constant that has it.  Names without a constant are
reported together; the others are filled in all the same.
-/

namespace ApiDoc

/-- Values by name. -/
abbrev ConstantValues := OrderedMap String String

/-- Names in a table of values that no constant of the class has. -/
structure UnknownConstants where
  className : String
  names : List String
deriving DecidableEq

namespace UnknownConstants

def message (e : UnknownConstants) : String :=
  "constant table names members missing from " ++ e.className ++ ": " ++ ", ".intercalate e.names

end UnknownConstants

/-- Gives a value to the first constant with a name. -/
def setValue (name value : String) : List Constant → List Constant
  | [] => []
  | c :: r => if c.name = name then { c with value := some value } :: r else c :: setValue name value r

namespace ClassModel

/-- Whether some constant has a name. -/
def hasConstant (m : ClassModel) (name : String) : Bool := m.constants.any (·.name == name)

/-- The model with the values of a table. -/
def fill (m : ClassModel) (values : ConstantValues) : ClassModel :=
  { m with constants := values.entries.foldl (fun l e => setValue e.1 e.2 l) m.constants }

/-- The names of a table that no constant has, in ascending order. -/
def unknownNames (m : ClassModel) (values : ConstantValues) : List String :=
  values.keys.filter (!m.hasConstant ·)

/-- The complaint about a table, if it names members that are missing. -/
def unknownConstants? (m : ClassModel) (values : ConstantValues) : Option UnknownConstants :=
  let names := m.unknownNames values
  if names.isEmpty then none else some ⟨m.fullName, names⟩

end ClassModel

end ApiDoc
