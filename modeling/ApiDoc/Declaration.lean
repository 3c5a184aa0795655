import ApiDoc.Declaration.TypeName
import ApiDoc.Member

/-!
# Reading declarations

Readers for the declaration blocks of a page: the class header, fields, constructors and methods.
Each takes the tokens of one block and the package of its page.
-/

namespace ApiDoc

/-! ## Modifiers -/

/-- The first access keyword, if there is one, and all flag keywords among the words; other words
are ignored. -/
def readModifiers (ts : List Token) : Access × Flags :=
  let ws := ts.filterMap fun t => match t with
    | .word w => some w
    | _ => none
  ((ws.findSome? Access.ofKeyword?).getD .isPackagePrivate,
    ws.foldl (fun f w => f.union ((Flags.ofKeyword? w).getD .none)) .none)

/-! ## Class headers -/

/-- The kind and supertypes a class definition states. -/
structure ClassHeader where
  kind : ClassKind
  /-- The name behind `class` or `interface`, if one stands there. -/
  name : Option String
  /-- Absent for interfaces, and for classes that extend only the root class. -/
  parent : Option TypeRef
  implements : List TypeRef
deriving DecidableEq

/-- The tokens before and after the first plain word `w`, if it occurs. -/
def cutAtWord? (w : String) : List Token → Option (List Token × List Token)
  | [] => none
  | t :: r => if t.isWord w then some ([], r) else (cutAtWord? w r).map fun p => (t :: p.1, p.2)

/-- The tokens of the clause behind the first `keyword`, which ends where the other clause
begins. -/
def headerClause (keyword other : String) (ts : List Token) : List Token :=
  match cutAtWord? keyword ts with
  | none => []
  | some (before, after) =>
    if before.any (·.isWord other) then after else after.takeWhile fun t => !t.isWord other

/-- The tokens in front of both clauses. -/
def headerHead (ts : List Token) : List Token :=
  ts.takeWhile fun t => !(t.isWord "extends" || t.isWord "implements")

/-- The kind is decided by the words in front of the clauses, `interface` before `final` before
`abstract`. -/
def headerKind (head : List Token) : ClassKind :=
  if head.any (·.isWord "interface") then .interface
  else if head.any (·.isWord "final") then .final
  else if head.any (·.isWord "abstract") then .abstract
  else .regular

/-- The member name behind the first `class` or `interface`. -/
def headerName? (head : List Token) : Option String :=
  match head.dropWhile fun t => !(t.isWord "class" || t.isWord "interface") with
  | _ :: t :: _ => t.memberName?
  | _ => none

/-- Reads `modifiers class|interface Name extends T, … implements T, …`, the two clauses in any
order. -/
def readClassHeader (ts : List Token) (package : String) :
    Except DeclarationError ClassHeader := do
  if ts.isEmpty then throw .empty
  let head := headerHead ts
  let kind := headerKind head
  let supertypes ← TypeRef.listOfTokens package (headerClause "extends" "implements" ts)
  let interfaces ← TypeRef.listOfTokens package (headerClause "implements" "extends" ts)
  if kind.isInterface then
    return ⟨kind, headerName? head, none, supertypes ++ interfaces⟩
  else if supertypes.length > 1 then
    throw (.invalidType (Token.render ts))
  else
    return ⟨kind, headerName? head, supertypes.head?.filter (!·.isRoot), interfaces⟩

/-! ## Fields -/

/-- The parts of tokens that end in a type: what stands before it, its base token and its bracket
groups. -/
def splitType? (ts : List Token) : Option (List Token × Token × List Token) :=
  match ts.reverse.dropWhile (·.isBrackets) with
  | [] => none
  | base :: before => some (before.reverse, base, (ts.reverse.takeWhile (·.isBrackets)).reverse)

/-- Reads `modifiers Type name = literal`, the literal optional. -/
def readField (ts : List Token) (package : String) : Except DeclarationError FieldDecl :=
  if ts.isEmpty then .error .empty
  else
    let (decl, value) := match cutAtWord? "=" ts with
      | some (decl, after) => (decl, after.head?.map Token.text)
      | none => (ts, none)
    match decl.getLast?.bind Token.memberName? with
    | none => .error (.missingName (Token.render ts))
    | some name =>
      match splitType? decl.dropLast with
      | none => .error (.missingType (Token.render ts))
      | some (modifiers, base, brackets) => do
        let type ← TypeRef.ofTokens package base brackets
        let (access, flags) := readModifiers modifiers
        return ⟨access, flags, name, type, value⟩

/-! ## Constructors and methods -/

/-- Reads `Type name, Type name, …`; a comma may stand at the end. -/
def readArguments (package decl : String) (ts : List Token) :
    Except DeclarationError (List Argument) :=
  match ts with
  | [] => .ok []
  | base :: rest => do
    let type ← TypeRef.ofTokens package base (rest.takeWhile (·.isBrackets))
    match _h : rest.dropWhile (·.isBrackets) with
    | [] => throw (.missingArgumentName type.print decl)
    | [t] =>
      match t.memberName? with
      | none => throw (.missingArgumentName type.print decl)
      | some name => return [⟨type, name⟩]
    | t :: comma :: more =>
      match t.memberName? with
      | none => throw (.missingArgumentName type.print decl)
      | some name =>
        if comma.isWord "," then
          let arguments ← readArguments package decl more
          return ⟨type, name⟩ :: arguments
        else throw (.missingToken "," decl)
termination_by ts.length
decreasing_by
  have := Text.length_dropWhile_le (·.isBrackets) rest
  simp only [_h, List.length_cons] at this ⊢
  omega

/-- Reads what follows the parameter list: types behind `throws`, their commas skipped; anything
else is ignored. -/
def readThrows (package : String) : List Token → Except DeclarationError (List TypeRef)
  | [] => .ok []
  | t :: r =>
    if t.isWord "throws" then
      (r.filter fun t => !t.isWord ",").mapM fun t => TypeRef.ofTokens package t []
    else .ok []

/-- Reads the tokens behind the opening parenthesis of a parameter list. -/
def readParameters (package decl : String) (ts : List Token) :
    Except DeclarationError (List Argument × List TypeRef) :=
  match cutAtWord? ")" ts with
  | none => .error (.missingToken ")" decl)
  | some (inside, after) => do
    let arguments ← readArguments package decl inside
    let throws ← readThrows package after
    return (arguments, throws)

/-- The tokens in front of the name, the name, and the tokens behind the first `(`. -/
def splitName (ts : List Token) :
    Except DeclarationError (List Token × String × List Token) :=
  if ts.isEmpty then .error .empty
  else
    match cutAtWord? "(" ts with
    | none => .error (.missingToken "(" (Token.render ts))
    | some (before, after) =>
      match before.getLast?.bind Token.memberName? with
      | none => .error (.missingName (Token.render ts))
      | some name => .ok (before.dropLast, name, after)

/-- Reads `modifiers Name(arguments) throws T, …`. -/
def readConstructor (ts : List Token) (package : String) :
    Except DeclarationError ConstructorDecl := do
  let (modifiers, _, after) ← splitName ts
  let (arguments, throws) ← readParameters package (Token.render ts) after
  return ⟨(readModifiers modifiers).1, arguments, throws⟩

/-- Reads `modifiers Type name(arguments) throws T, …`. -/
def readMethod (ts : List Token) (package : String) : Except DeclarationError MethodDecl := do
  let (before, name, after) ← splitName ts
  match splitType? before with
  | none => throw (.missingType (Token.render ts))
  | some (modifiers, base, brackets) =>
    let returnType ← TypeRef.ofTokens package base brackets
    let (access, flags) := readModifiers modifiers
    let (arguments, throws) ← readParameters package (Token.render ts) after
    return ⟨access, flags, name, returnType, arguments, throws⟩

end ApiDoc
