import ApiDoc.TypeRef

/-!
# Modifiers and kinds

Access, the modifiers a member may combine, the kinds of classes, and the rule that tells a
constant from a field: exactly `static final`, with one of a few scalar types.
-/

namespace ApiDoc

/-! ## Access -/

/-- Who may use a member. -/
inductive Access
  | isPublic
  | isProtected
  | isPackagePrivate
  | isPrivate
deriving DecidableEq, Inhabited

namespace Access

def ofKeyword? (word : String) : Option Access :=
  if word = "public" then some .isPublic
  else if word = "protected" then some .isProtected
  else if word = "private" then some .isPrivate
  else none

/-- Package-private access has no keyword. -/
def keyword? : Access → Option String
  | .isPublic => some "public"
  | .isProtected => some "protected"
  | .isPackagePrivate => none
  | .isPrivate => some "private"

/-- The name of the access in a record of the model. -/
def name : Access → String
  | .isPublic => "public"
  | .isProtected => "protected"
  | .isPackagePrivate => "package_private"
  | .isPrivate => "private"

/-- The word for the access in the identity of a member. -/
def identityWord (a : Access) : String := a.keyword?.getD "package"

theorem ofKeyword?_keyword? {a : Access} {word : String} (h : a.keyword? = some word) :
    ofKeyword? word = some a := by
  cases a <;> simp [keyword?] at h <;> subst h <;> decide

end Access

/-! ## Flags -/

/-- The modifiers a member may combine. -/
structure Flags where
  isAbstract : Bool
  isStatic : Bool
  isFinal : Bool
deriving DecidableEq, Inhabited

namespace Flags

def none : Flags := ⟨false, false, false⟩

/-- What makes a field a constant, if its type allows it. -/
def staticFinal : Flags := ⟨false, true, true⟩

def ofKeyword? (word : String) : Option Flags :=
  if word = "abstract" then some ⟨true, false, false⟩
  else if word = "static" then some ⟨false, true, false⟩
  else if word = "final" then some ⟨false, false, true⟩
  else Option.none

/-- The modifiers of both. -/
def union (f g : Flags) : Flags :=
  ⟨f.isAbstract || g.isAbstract, f.isStatic || g.isStatic, f.isFinal || g.isFinal⟩

/-- The keywords in the order in which they are printed. -/
def keywords (f : Flags) : List String :=
  (if f.isAbstract then ["abstract"] else []) ++ (if f.isStatic then ["static"] else []) ++
    (if f.isFinal then ["final"] else [])

/-- One bit per modifier: static 1, abstract 2, final 4. -/
def bits (f : Flags) : Nat :=
  (if f.isStatic then 1 else 0) + (if f.isAbstract then 2 else 0) + (if f.isFinal then 4 else 0)

def isEmpty (f : Flags) : Bool := f == none

/-- The keywords between the words that show which kind of value it is. -/
def debugText (f : Flags) : String :=
  "MemberFlags(" ++ (if f.isEmpty then "none" else " | ".intercalate f.keywords) ++ ")"

end Flags

/-! ## Kinds of classes -/

inductive ClassKind
  | interface
  | regular
  | final
  | abstract
deriving DecidableEq, Inhabited

namespace ClassKind

def isInterface (k : ClassKind) : Bool := k == .interface

/-- The keywords of a declaration. -/
def keywords : ClassKind → String
  | .interface => "interface"
  | .regular => "class"
  | .final => "final class"
  | .abstract => "abstract class"

/-- The name of the kind in a record of the model. -/
def name : ClassKind → String
  | .interface => "interface"
  | .regular => "regular"
  | .final => "final"
  | .abstract => "abstract"

/-- The name of the kind in a message. -/
def debugText : ClassKind → String
  | .interface => "Interface"
  | .regular => "Regular"
  | .final => "Final"
  | .abstract => "Abstract"

end ClassKind

/-! ## Constants -/

/-- The types a constant may have. -/
inductive ConstantType
  | byte
  | short
  | int
  | long
  | float
  | double
  | boolean
  | char
  | string
deriving DecidableEq, Inhabited

namespace ConstantType

def ofTypeName? (name : String) : Option ConstantType :=
  if name = "byte" then some .byte
  else if name = "short" then some .short
  else if name = "int" then some .int
  else if name = "long" then some .long
  else if name = "float" then some .float
  else if name = "double" then some .double
  else if name = "boolean" then some .boolean
  else if name = "char" then some .char
  else if name = "java.lang.String" then some .string
  else none

def name : ConstantType → String
  | .byte => "byte"
  | .short => "short"
  | .int => "int"
  | .long => "long"
  | .float => "float"
  | .double => "double"
  | .boolean => "boolean"
  | .char => "char"
  | .string => "string"

end ConstantType

/-- A field is a constant when it is exactly `static final` and of one of the types of constants,
without array dimensions. -/
def constantType? (flags : Flags) (type : TypeRef) : Option ConstantType :=
  if flags = .staticFinal ∧ type.dims = 0 then ConstantType.ofTypeName? type.name else none

end ApiDoc
