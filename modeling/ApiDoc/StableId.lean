import ApiDoc.Digest
import ApiDoc.Member

/-!
# Stable identities

A class or member has an identity string that names what it is, and a 64-bit id that is the start
of the digest of that string.  The id is the same in every run.
-/

namespace ApiDoc

/-- The first eight bytes of the digest of an identity string. -/
structure StableId where
  value : UInt64
deriving DecidableEq, Inhabited

namespace StableId

def ofText (identity : String) : StableId :=
  let d := Digest.digest identity.toUTF8.toList
  ⟨d.a.toUInt64 <<< 32 ||| d.b.toUInt64⟩

/-- Sixteen lower-case hexadecimal digits. -/
def print (i : StableId) : String :=
  let ds := Nat.toDigits 16 i.value.toNat
  String.ofList (List.replicate (16 - ds.length) '0' ++ ds)

/-- The digits between the words that show which kind of value it is. -/
def debugText (i : StableId) : String := "StableId(" ++ i.print ++ ")"

end StableId

/-! ## Identity strings -/

/-- The argument types, joined by commas, in parentheses. -/
def identityArguments (arguments : List Argument) : String :=
  "(" ++ ",".intercalate ((argumentTypes arguments).map TypeRef.print) ++ ")"

/-- The modifiers in square brackets. -/
def identityFlags (flags : Flags) : String := "[" ++ " ".intercalate flags.keywords ++ "]"

namespace Constructor

/-- Owner, access and argument types. -/
def identity (c : Constructor) (owner : String) : String :=
  owner ++ "#<init> " ++ c.access.identityWord ++ " " ++ identityArguments c.arguments

end Constructor

namespace Method

/-- Owner, name, access, modifiers, return type and argument types. -/
def identity (m : Method) (owner : String) : String :=
  owner ++ "#" ++ m.name ++ " " ++ m.access.identityWord ++ " " ++ identityFlags m.flags ++ " " ++
    m.returnType.print ++ " " ++ identityArguments m.arguments

end Method

namespace Field

/-- Owner, name, whether it is a field or a constant, access, modifiers and type. -/
def identityOfKind (f : Field) (kind owner : String) : String :=
  owner ++ "#" ++ f.name ++ " " ++ kind ++ " " ++ f.access.identityWord ++ " " ++
    identityFlags f.flags ++ " " ++ f.type.print

def identity (f : Field) (owner : String) : String := f.identityOfKind "field" owner

end Field

namespace Constant

def identity (c : Constant) (owner : String) : String := c.field.identityOfKind "constant" owner

end Constant

end ApiDoc
