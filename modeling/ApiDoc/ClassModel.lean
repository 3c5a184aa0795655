import ApiDoc.Absorb
import ApiDoc.Member
import ApiDoc.Path

/-!
# Models of classes

A class declaration is what one page states, in source order.  Freezing it gives the model of the
class: the root class is not kept as a parent, an interface has superinterfaces only, constants are
told from fields, and repeated members are folded into one entry each.
-/

namespace ApiDoc

/-- The name of a class in its package; the empty package adds nothing. -/
def qualifiedName (package name : String) : String :=
  if package.isEmpty then name else package ++ "." ++ name

/-- A class as its page declares it. -/
structure ClassDecl where
  package : String
  name : String
  kind : ClassKind
  parent : Option TypeRef
  implements : List TypeRef
  fields : List FieldDecl
  constructors : List ConstructorDecl
  methods : List MethodDecl
deriving DecidableEq

/-- The queryable model of one class or interface. -/
structure ClassModel where
  package : String
  name : String
  kind : ClassKind
  /-- Absent when the parent is the root class. -/
  parent : Option TypeRef
  implements : OrderedSet TypeRef
  constructors : List Constructor
  methods : List Method
  fields : List Field
  constants : List Constant
  /-- The pages the model was read from, in the order in which they were merged. -/
  sources : List Path
deriving DecidableEq

/-! ## How repeated members combine -/

/-- The same constructor twice is one with both `throws` sets. -/
def constructorAbsorption : Absorption Constructor :=
  ⟨Constructor.isSame, fun c d => c.throwing d.throws⟩

/-- The same method twice is one with both `throws` sets. -/
def methodAbsorption : Absorption Method :=
  ⟨Method.isSame, fun m n => m.throwing n.throws⟩

/-- The same constant twice is one with the first value that is known. -/
def constantAbsorption : Absorption Constant :=
  ⟨fun c d => c.field == d.field, fun c d => { c with value := c.value.or d.value }⟩

/-- The same path twice is kept once, as first written. -/
def sourceAbsorption : Absorption Path := ⟨Path.same, fun p _ => p⟩

/-! ## Freezing -/

namespace ClassDecl

def fullName (d : ClassDecl) : String := qualifiedName d.package d.name

/-- The declared parent, unless it is the root class. -/
def properParent (d : ClassDecl) : Option TypeRef := d.parent.filter (!·.isRoot)

/-- The declared fields that are no constants. -/
def plainFields (d : ClassDecl) : List Field :=
  d.fields.filterMap fun f => match f.classify with
    | .field g => some g
    | .constant _ => none

/-- The declared fields that are constants. -/
def constants (d : ClassDecl) : List Constant :=
  d.fields.filterMap fun f => match f.classify with
    | .field _ => none
    | .constant c => some c

/-- The model of a declared class; `source` is the page that declares it. -/
def freeze (d : ClassDecl) (source : Option Path) : ClassModel where
  package := d.package
  name := d.name
  kind := d.kind
  parent := if d.kind.isInterface then none else d.properParent
  implements :=
    let declared := OrderedSet.ofList d.implements
    if d.kind.isInterface then declared.insertMany d.properParent.toList else declared
  constructors := constructorAbsorption.addAll [] (d.constructors.map (·.toConstructor))
  methods := methodAbsorption.addAll [] (d.methods.map (·.toMethod))
  fields := (Absorption.distinct Field).addAll [] d.plainFields
  constants := constantAbsorption.addAll [] d.constants
  sources := source.toList

end ClassDecl

/-! ## Queries -/

namespace ClassModel

def fullName (m : ClassModel) : String := qualifiedName m.package m.name

def isInterface (m : ClassModel) : Bool := m.kind.isInterface

/-- An interface with a single method and no data members. -/
def isFunctionalInterface (m : ClassModel) : Bool :=
  m.isInterface && m.fields.isEmpty && m.constants.isEmpty && m.methods.length == 1

/-- A class whose only members besides methods are `static final` fields of one type. -/
def isClassEnum (m : ClassModel) : Bool :=
  match m.fields with
  | [] => false
  | first :: _ =>
    m.constants.isEmpty && m.constructors.isEmpty &&
      m.fields.all fun f => f.type == first.type && f.flags == .staticFinal

/-- The first constant with a name. -/
def constant? (m : ClassModel) (name : String) : Option Constant :=
  m.constants.find? (·.name == name)

/-- Whether two models agree in everything, their sources as paths. -/
def same (a b : ClassModel) : Bool :=
  { a with sources := [] } == { b with sources := [] } &&
    a.sources.map Path.components == b.sources.map Path.components

/-- The header of the class without its body. -/
def printHeader (m : ClassModel) : String :=
  "public " ++ m.kind.keywords ++ " " ++ m.fullName ++
    printClause "extends" m.parent.toList ++
    printClause (if m.isInterface then "extends" else "implements") m.implements.toList

end ClassModel

end ApiDoc
