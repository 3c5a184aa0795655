/-!
# Patterns

The value of a field can be given as a regular expression.  Here it only matters which texts are
regular expressions at all.
-/

namespace ApiDoc

/-- What has been read of a pattern. -/
structure PatternState where
  /-- The number of open groups. -/
  depth : Nat
  /-- Whether there is something a repetition can refer to. -/
  repeatable : Bool

/-- The letters that name a class or a character behind a backslash. -/
def patternEscapes : List Char := "dDsSwWbBAzaftnrv".toList

/-- Whether a character can stand behind a backslash. -/
def isPatternEscape (c : Char) : Bool :=
  patternEscapes.contains c || (c.toNat < 128 && !c.isAlphanum && c != ' ' && 32 < c.toNat)

/-- The pattern behind a class in brackets whose opening bracket has been read. -/
def skipPatternClass (cs : List Char) : Option (List Char) :=
  let body := match cs with
    | '^' :: r => r
    | _ => cs
  match body with
  | [] => none
  | _ :: r =>
    match r.dropWhile (· != ']') with
    | [] => none
    | _ :: rest => some rest

/-- Whether the rest of a text completes a pattern; the text itself bounds the number of steps. -/
def completesPattern : Nat → PatternState → List Char → Bool
  | 0, _, _ => false
  | _, s, [] => s.depth == 0
  | n + 1, s, c :: r =>
    match c with
    | '(' =>
      let body := match r with
        | '?' :: ':' :: more => more
        | _ => r
      completesPattern n ⟨s.depth + 1, false⟩ body
    | ')' => s.depth != 0 && completesPattern n ⟨s.depth - 1, true⟩ r
    | '|' => completesPattern n { s with repeatable := false } r
    | '*' => s.repeatable && completesPattern n s r
    | '+' => s.repeatable && completesPattern n s r
    | '?' => s.repeatable && completesPattern n s r
    | '\x7b' => false
    | '[' =>
      match skipPatternClass r with
      | some rest => completesPattern n { s with repeatable := true } rest
      | none => false
    | '\\' =>
      match r with
      | [] => false
      | e :: rest => isPatternEscape e && completesPattern n { s with repeatable := true } rest
    | _ => completesPattern n { s with repeatable := true } r

/-- Whether a text is a pattern. -/
def isPattern (cs : List Char) : Bool := completesPattern (cs.length + 1) ⟨0, false⟩ cs

end ApiDoc
