import ApiDoc.Text.Blank

/-!
# Tokens of a declaration

A declaration is cut into words at blanks and around parentheses and commas; an opening bracket
starts a new word.  Everything behind the first `=` is one literal.  Text arrives piece by piece:
`LexState` says whether a literal has begun, and `lexText` gives the tokens of a piece with the
state after it.
-/

namespace ApiDoc

/-- One lexical unit of a declaration. -/
inductive Token
  /-- A run without blanks, or one of the marks `(`, `)`, `,` and `=`. -/
  | word (text : String)
  /-- The qualified name of a linked type. -/
  | ref (text : String)
  /-- The text behind `=`. -/
  | literal (text : String)
deriving DecidableEq, Inhabited

namespace Token

def text : Token → String
  | .word t => t
  | .ref t => t
  | .literal t => t

/-- Whether this is the plain word `w`. -/
def isWord (t : Token) (w : String) : Bool := t == .word w

/-- Whether this is a word that starts with an opening bracket. -/
def isBrackets : Token → Bool
  | .word t => t.toList.head? == some '['
  | _ => false

/-- The texts of tokens with one space between them. -/
def render (ts : List Token) : String := " ".intercalate (ts.map text)

end Token

/-! ## Lexing text -/

/-- The literal read so far, once one has begun. -/
abbrev LexState := Option (List Char)

/-- Non-breaking spaces count as spaces, also inside a literal. -/
def plainSpaces (cs : List Char) : List Char := cs.map fun c => if c = '\u00A0' then ' ' else c

/-- Blanks around parentheses and commas, and in front of each opening bracket. -/
def spreadMarks (cs : List Char) : List Char :=
  cs.flatMap fun c =>
    if c = '(' ∨ c = ')' ∨ c = ',' then [' ', c, ' '] else if c = '[' then [' ', c] else [c]

/-- The words of a text in front of any `=`. -/
def wordTokens (cs : List Char) : List Token :=
  (Text.words (spreadMarks cs)).map fun w => .word (String.ofList w)

/-- The tokens a piece of text adds, and the state after it. -/
def lexText (state : LexState) (cs : List Char) : List Token × LexState :=
  match state with
  | some literal => ([], some (literal ++ plainSpaces cs))
  | none =>
    match Text.cutAt? '=' (plainSpaces cs) with
    | some (decl, value) => (wordTokens decl ++ [.word "="], some value)
    | none => (wordTokens (plainSpaces cs), none)

/-- The literal at the end of a declaration; a blank one is dropped. -/
def literalTokens : LexState → List Token
  | none => []
  | some literal =>
    let value := Text.trim literal
    if value.isEmpty then [] else [.literal (String.ofList value)]

/-- The tokens of a declaration given as plain text. -/
def tokenizeChars (cs : List Char) : List Token :=
  let p := lexText none cs
  p.1 ++ literalTokens p.2

/-- The tokens of a declaration given as plain text. -/
def tokenize (text : String) : List Token := tokenizeChars text.toList

end ApiDoc
