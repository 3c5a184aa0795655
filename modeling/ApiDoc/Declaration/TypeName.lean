import ApiDoc.Declaration.Error
import ApiDoc.Token
import ApiDoc.TypeRef

/-!
# Types and names in a declaration

A bare type name belongs to the package of its page; a dotted name, a primitive keyword and the
target of a link are complete.  Bracket groups behind the base token add array dimensions.
-/

namespace ApiDoc

/-- The words that name neither a type nor a member. -/
def reservedWords : List String := [
  "public", "protected", "private", "static", "abstract", "final", "native", "synchronized",
  "transient", "volatile", "strictfp", "default", "class", "interface", "enum", "extends",
  "implements", "throws", "package", "import", "new", "null", "true", "false", "this", "super"]

def isReserved (word : String) : Bool := reservedWords.contains word

namespace TypeRef

/-- Reads a type token on a page of `package`: a bare name that is not primitive gets the package
in front. -/
def qualify (package token : String) : Except DeclarationError TypeRef :=
  match parse? token with
  | none => .error (.invalidType token)
  | some t =>
    if package.isEmpty || isPrimitiveName t.name || t.name.toList.contains '.' then .ok t
    else .ok { t with name := package ++ "." ++ t.name }

/-- Reads the base token of a type. -/
def ofToken (package : String) (base : Token) : Except DeclarationError TypeRef :=
  match base with
  | .word w =>
    if w == "," || w == "(" || w == ")" || base.isBrackets || isReserved w then
      .error (.invalidType w)
    else qualify package w
  | .ref name =>
    match parse? name with
    | some t => .ok t
    | none => .error (.invalidType name)
  | .literal text => .error (.invalidType text)

/-- The number of pairs in a text that is a run of `[]`. -/
def bracketPairs? : List Char → Option Nat
  | [] => some 0
  | '[' :: ']' :: r => (bracketPairs? r).map (· + 1)
  | _ => none

/-- Adds the dimensions of bracket groups to a type, up to 255 in all. -/
def addBrackets (base : Token) (t : TypeRef) : List Token → Except DeclarationError TypeRef
  | [] => .ok t
  | g :: r =>
    match bracketPairs? g.text.toList with
    | none => .error (.invalidType (base.text ++ g.text))
    | some n =>
      if h : t.dims + n ≤ 255 then addBrackets base ⟨t.name, t.dims + n, h⟩ r
      else .error (.invalidType base.text)

/-- Reads a base token with the bracket groups behind it. -/
def ofTokens (package : String) (base : Token) (brackets : List Token) :
    Except DeclarationError TypeRef :=
  match ofToken package base with
  | .ok t => addBrackets base t brackets
  | .error e => .error e

/-- Reads type references with commas between them; empty places are skipped. -/
def listOfTokens (package : String) (ts : List Token) : Except DeclarationError (List TypeRef) :=
  ((ts.splitOnP (·.isWord ",")).filter fun g => !g.isEmpty).mapM fun
    | [] => .error .empty
    | base :: brackets => ofTokens package base brackets

end TypeRef

/-- Whether a word can name a member: name characters, not starting with an ASCII digit, neither
reserved nor primitive. -/
def isMemberName (word : String) : Bool :=
  !word.isEmpty && !isReserved word && !TypeRef.isPrimitiveName word &&
    !(word.toList.head?.any Char.isDigit) && word.toList.all Text.isNameChar

namespace Token

/-- The member name a token gives, if it is one. -/
def memberName? : Token → Option String
  | .word w => if isMemberName w then some w else none
  | _ => none

end Token

end ApiDoc
