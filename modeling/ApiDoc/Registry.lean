import ApiDoc.ClassModel
import ApiDoc.Ordered.Map
import ApiDoc.StableId
import Std.Data.HashMap

/-!
# The registry of classes

A registry keeps one model per full name, in the order of the names.  A short name finds a class
when it is the simple name of just one of them.
-/

namespace ApiDoc

/-- The models by full name. -/
structure Registry where
  classes : OrderedMap String ClassModel
deriving DecidableEq

/-- Two identity strings with one id. -/
structure IdentityCollision where
  id : StableId
  first : String
  second : String
deriving DecidableEq

namespace IdentityCollision

def message (c : IdentityCollision) : String :=
  "identity collision on " ++ c.id.print ++ ": " ++ Text.quoted c.first ++ " and " ++
    Text.quoted c.second

end IdentityCollision

namespace Registry

def empty : Registry := ⟨.empty⟩

/-- Registers a model under its full name, instead of the one that is there. -/
def insert (r : Registry) (m : ClassModel) : Registry := ⟨r.classes.insert m.fullName m⟩

/-- The registry of a list of models. -/
def ofList (models : List ClassModel) : Registry := models.foldl insert empty

def get? (r : Registry) (fullName : String) : Option ClassModel := r.classes.get? fullName

def contains (r : Registry) (fullName : String) : Bool := r.classes.contains fullName

def size (r : Registry) : Nat := r.classes.size

def isEmpty (r : Registry) : Bool := r.classes.isEmpty

/-- The full names in ascending order. -/
def names (r : Registry) : List String := r.classes.keys

/-- The models in the order of their full names. -/
def models (r : Registry) : List ClassModel := r.classes.values

/-- Finds a class by name: a dotted name has to be a full name, any other the simple name of just
one class. -/
def resolve? (r : Registry) (name : String) : Option String :=
  if name.toList.contains '.' then if r.contains name then some name else none
  else
    match r.models.filter (·.name == name) with
    | [m] => if r.contains m.fullName then some m.fullName else none
    | _ => none

/-! ## Identities -/

end Registry

namespace ClassModel

def stableId (m : ClassModel) : StableId := .ofText m.fullName

/-- The identity strings of the members: constructors, methods, fields, constants. -/
def memberIdentities (m : ClassModel) : List String :=
  m.constructors.map (·.identity m.fullName) ++ m.methods.map (·.identity m.fullName) ++
    m.fields.map (·.identity m.fullName) ++ m.constants.map (·.identity m.fullName)

end ClassModel

/-- The first id that two different identity strings share; repeats of one string are no
collision. -/
def findCollision? (identities : List String) : Option IdentityCollision :=
  go ∅ identities
where
  /-- Goes through the strings with those seen so far by id. -/
  go (seen : Std.HashMap UInt64 String) : List String → Option IdentityCollision
    | [] => none
    | s :: r =>
      let id := StableId.ofText s
      match seen[id.value]? with
      | none => go (seen.insert id.value s) r
      | some first => if first = s then go seen r else some ⟨id, first, s⟩

namespace Registry

/-- The identity strings of the classes and their members. -/
def identities (r : Registry) : List String :=
  r.classes.entries.flatMap fun e => e.1 :: e.2.memberIdentities

/-- A collision of ids in the registry, if there is one. -/
def collision? (r : Registry) : Option IdentityCollision := findCollision? r.identities

end Registry

end ApiDoc
