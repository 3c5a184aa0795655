import ApiDoc.Text.Blank
import ApiDoc.Text.Alphanumeric
import ApiDoc.Text.Quoted

/-!
# Type references

A type reference is a name (qualified, or a primitive keyword) with a number of array dimensions.
It is written as its name followed by one `[]` per dimension; reading also allows blanks around
the text and in front of each `[]`.
-/

namespace ApiDoc

/-- A type name with at most 255 array dimensions. -/
structure TypeRef where
  name : String
  dims : Nat
  dims_le : dims ≤ 255
deriving DecidableEq

namespace TypeRef

/-! ## Order -/

/-- By name, then by dimensions. -/
instance : Ord TypeRef := ⟨compareLex (compareOn TypeRef.name) (compareOn TypeRef.dims)⟩

instance : Std.TransOrd TypeRef :=
  inferInstanceAs (Std.TransCmp (compareLex (compareOn TypeRef.name) (compareOn TypeRef.dims)))

instance : Std.LawfulEqOrd TypeRef where
  compare_self := Std.ReflCmp.compare_self
  eq_of_compare := by
    intro a b h
    have h' : (compareOn TypeRef.name a b).then (compareOn TypeRef.dims a b) = .eq := h
    rw [Ordering.then_eq_eq] at h'
    obtain ⟨n, d, _⟩ := a
    obtain ⟨m, e, _⟩ := b
    have hn : n = m := Std.LawfulEqCmp.eq_of_compare h'.1
    have hd : d = e := Std.LawfulEqCmp.eq_of_compare h'.2
    subst hn hd
    rfl

/-! ## Printing -/

/-- The name followed by one `[]` per dimension. -/
def print (t : TypeRef) : String := t.name ++ String.join (List.replicate t.dims "[]")

instance : ToString TypeRef := ⟨print⟩

/-- The printed form between the words that show which kind of value it is. -/
def debugText (t : TypeRef) : String := "TypeRef(" ++ t.print ++ ")"

/-! ## Queries -/

/-- The type without dimensions that has a name. -/
def ofName (name : String) : TypeRef := ⟨name, 0, Nat.zero_le _⟩

/-- The keywords of the primitive types, and `void`. -/
def primitives : List String :=
  ["boolean", "byte", "char", "short", "int", "long", "float", "double", "void"]

/-- Whether a name is the keyword of a primitive type, or `void`. -/
def isPrimitiveName (name : String) : Bool := primitives.contains name

/-- The class every other class extends. -/
def rootName : String := "java.lang.Object"

def isArray (t : TypeRef) : Bool := 0 < t.dims

def isPrimitive (t : TypeRef) : Bool := t.dims == 0 && isPrimitiveName t.name

/-- Whether this is the class every other class extends. -/
def isRoot (t : TypeRef) : Bool := t.dims == 0 && t.name == rootName

/-- The part of the name before the last dot, if there is a dot. -/
def package? (t : TypeRef) : Option String :=
  (Text.cutAtLast? '.' t.name.toList).map fun p => String.ofList p.1

/-- The part of the name after the last dot. -/
def simpleName (t : TypeRef) : String :=
  match Text.cutAtLast? '.' t.name.toList with
  | some p => String.ofList p.2
  | none => t.name

/-! ## Reading -/

/-- Counts the groups `[]` a text ends with, blanks allowed before each, and gives what stands in
front of them.  The text is given backwards, and so is the answer. -/
def arraySuffixes : List Char → Nat × List Char
  | ']' :: '[' :: r =>
    let p := arraySuffixes (r.dropWhile Text.isBlank)
    (p.1 + 1, p.2)
  | r => (0, r)
termination_by r => r.length
decreasing_by
  have := Text.length_dropWhile_le Text.isBlank r
  simp only [List.length_cons]
  omega

/-- Nonempty, of name characters and dots, without a dot at either end. -/
def isTypeName (cs : List Char) : Bool :=
  !cs.isEmpty && cs.head? != some '.' && cs.getLast? != some '.' &&
    cs.all fun c => c == '.' || Text.isNameChar c

/-- Reads a written type reference. -/
def parse? (text : String) : Option TypeRef :=
  let p := arraySuffixes (Text.trim text.toList).reverse
  let name := p.2.reverse
  if h : p.1 ≤ 255 then
    if isTypeName name then some ⟨String.ofList name, p.1, h⟩ else none
  else none

/-- What is said of a text that is no type reference. -/
def invalidMessage (text : String) : String := "invalid type reference: " ++ Text.quoted text

end TypeRef

end ApiDoc
