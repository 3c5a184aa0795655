/-!
# Natural numbers in decimal

A number is written in ASCII digits, with a plus sign in front or without; zeros may lead.
-/

namespace ApiDoc.Text

/-- The value of ASCII digits. -/
def digitsValue (cs : List Char) : Nat := cs.foldl (fun n c => 10 * n + (c.toNat - 48)) 0

/-- The value of one or more ASCII digits. -/
def digits? (cs : List Char) : Option Nat :=
  if cs.isEmpty || !cs.all Char.isDigit then none else some (digitsValue cs)

/-- The number a text stands for. -/
def natural? (cs : List Char) : Option Nat :=
  match cs with
  | '+' :: r => digits? r
  | _ => digits? cs

end ApiDoc.Text
