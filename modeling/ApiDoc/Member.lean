import ApiDoc.Modifier
import ApiDoc.Ordered.Set

/-!
# Members

The members of a class as its model keeps them, and the declarations a page states: a declaration
keeps the source order of its `throws` clause, a member keeps the set.  Every member has a printed
form that the declaration reader accepts.
-/

namespace ApiDoc

/-- One parameter of a constructor or method. -/
structure Argument where
  type : TypeRef
  name : String
deriving DecidableEq

/-! ## Declarations -/

/-- A field as its declaration states it, with the literal behind `=`, if any. -/
structure FieldDecl where
  access : Access
  flags : Flags
  name : String
  type : TypeRef
  value : Option String
deriving DecidableEq

/-- A constructor as its declaration states it. -/
structure ConstructorDecl where
  access : Access
  arguments : List Argument
  throws : List TypeRef
deriving DecidableEq

/-- A method as its declaration states it. -/
structure MethodDecl where
  access : Access
  flags : Flags
  name : String
  returnType : TypeRef
  arguments : List Argument
  throws : List TypeRef
deriving DecidableEq

/-! ## Members of a model -/

structure Field where
  access : Access
  flags : Flags
  name : String
  type : TypeRef
deriving DecidableEq

/-- A field with the type of a constant, and its literal value, if known. -/
structure Constant where
  field : Field
  constantType : ConstantType
  value : Option String
deriving DecidableEq

structure Constructor where
  access : Access
  arguments : List Argument
  throws : OrderedSet TypeRef
deriving DecidableEq

structure Method where
  access : Access
  flags : Flags
  name : String
  returnType : TypeRef
  arguments : List Argument
  throws : OrderedSet TypeRef
deriving DecidableEq

namespace Constant

def name (c : Constant) : String := c.field.name

end Constant

/-- A declared field is either a plain field or a constant. -/
inductive ClassifiedField
  | field (f : Field)
  | constant (c : Constant)
deriving DecidableEq

namespace FieldDecl

/-- The declared field without its value. -/
def field (d : FieldDecl) : Field := ⟨d.access, d.flags, d.name, d.type⟩

/-- Tells constants from plain fields; a plain field loses its value. -/
def classify (d : FieldDecl) : ClassifiedField :=
  match constantType? d.flags d.type with
  | some t => .constant ⟨d.field, t, d.value⟩
  | none => .field d.field

end FieldDecl

namespace ConstructorDecl

def toConstructor (d : ConstructorDecl) : Constructor :=
  ⟨d.access, d.arguments, .ofList d.throws⟩

end ConstructorDecl

namespace MethodDecl

def toMethod (d : MethodDecl) : Method :=
  ⟨d.access, d.flags, d.name, d.returnType, d.arguments, .ofList d.throws⟩

end MethodDecl

/-! ## Signatures -/

/-- The types of a parameter list. -/
def argumentTypes (arguments : List Argument) : List TypeRef := arguments.map (·.type)

namespace Constructor

/-- Whether the argument types agree. -/
def hasSameSignature (c d : Constructor) : Bool :=
  argumentTypes c.arguments == argumentTypes d.arguments

/-- Whether two entries are the same constructor but for argument names and `throws`. -/
def isSame (c d : Constructor) : Bool := c.access == d.access && c.hasSameSignature d

/-- The constructor with more types in its `throws` set. -/
def throwing (c : Constructor) (s : OrderedSet TypeRef) : Constructor :=
  { c with throws := c.throws ∪ s }

end Constructor

namespace Method

/-- Whether name, return type and argument types agree. -/
def hasSameSignature (m n : Method) : Bool :=
  m.name == n.name && m.returnType == n.returnType &&
    argumentTypes m.arguments == argumentTypes n.arguments

/-- Whether two entries are the same method but for argument names and `throws`. -/
def isSame (m n : Method) : Bool :=
  m.access == n.access && m.flags == n.flags && m.hasSameSignature n

/-- The method with more types in its `throws` set. -/
def throwing (m : Method) (s : OrderedSet TypeRef) : Method :=
  { m with throws := m.throws ∪ s }

end Method

/-! ## Printing -/

/-- The keywords of a declaration, each followed by a space. -/
def printModifiers (access : Access) (flags : Flags) : String :=
  String.join ((access.keyword?.toList ++ flags.keywords).map (· ++ " "))

namespace Argument

def print (a : Argument) : String := a.type.print ++ " " ++ a.name

end Argument

/-- A parameter list in parentheses. -/
def printArguments (arguments : List Argument) : String :=
  "(" ++ ", ".intercalate (arguments.map Argument.print) ++ ")"

/-- A clause of types behind its keyword; no types, no clause. -/
def printClause (keyword : String) (types : List TypeRef) : String :=
  if types.isEmpty then "" else " " ++ keyword ++ " " ++ ", ".intercalate (types.map TypeRef.print)

namespace Field

def print (f : Field) : String := printModifiers f.access f.flags ++ f.type.print ++ " " ++ f.name

end Field

namespace Constant

def print (c : Constant) : String :=
  c.field.print ++ match c.value with
    | some v => " = " ++ v
    | none => ""

end Constant

namespace ClassifiedField

def print : ClassifiedField → String
  | .field f => f.print
  | .constant c => c.print

end ClassifiedField

namespace Constructor

/-- The constructor as a declaration of the class with the given simple name. -/
def print (c : Constructor) (simpleName : String) : String :=
  printModifiers c.access .none ++ simpleName ++ printArguments c.arguments ++
    printClause "throws" c.throws.toList

end Constructor

namespace Method

def print (m : Method) : String :=
  printModifiers m.access m.flags ++ m.returnType.print ++ " " ++ m.name ++
    printArguments m.arguments ++ printClause "throws" m.throws.toList

end Method

end ApiDoc
