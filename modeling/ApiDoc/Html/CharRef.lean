import ApiDoc.Html.NamedRef

/-!
# Character references

A reference behind `&` is a name from the table or a number; what is neither stays as it stands.
In attribute values an unfinished name in front of a letter, digit or `=` stays, too.
-/

namespace ApiDoc.Html.CharRef

/-- What the numbers from 0x80 to 0x9F stand for, if not for themselves. -/
def windowsReplacements : List (Nat × Nat) := [
  (0x80, 0x20AC), (0x82, 0x201A), (0x83, 0x0192), (0x84, 0x201E), (0x85, 0x2026), (0x86, 0x2020),
  (0x87, 0x2021), (0x88, 0x02C6), (0x89, 0x2030), (0x8A, 0x0160), (0x8B, 0x2039), (0x8C, 0x0152),
  (0x8E, 0x017D), (0x91, 0x2018), (0x92, 0x2019), (0x93, 0x201C), (0x94, 0x201D), (0x95, 0x2022),
  (0x96, 0x2013), (0x97, 0x2014), (0x98, 0x02DC), (0x99, 0x2122), (0x9A, 0x0161), (0x9B, 0x203A),
  (0x9C, 0x0153), (0x9E, 0x017E), (0x9F, 0x0178)]

/-- The character a number stands for. -/
def ofNumber (n : Nat) : Char :=
  if n = 0 ∨ n > 0x10FFFF ∨ (0xD800 ≤ n ∧ n ≤ 0xDFFF) then '\uFFFD'
  else Char.ofNat ((windowsReplacements.lookup n).getD n)

/-- The value of digits. -/
def digitsValue (base : Nat) (digits : List Char) : Nat :=
  digits.foldl (fun n c =>
    n * base + (if c.isDigit then c.toNat - 48 else (c.toLower.toNat - 97) + 10)) 0

def isHexDigit (c : Char) : Bool :=
  c.isDigit || ('a' ≤ c && c ≤ 'f') || ('A' ≤ c && c ≤ 'F')

/-- Reads the digits of a numeric reference and the semicolon, which may be missing. -/
def readDigits? (base : Nat) (isDigit : Char → Bool) (cs : List Char) :
    Option (List Char × List Char) :=
  let digits := cs.takeWhile isDigit
  if digits.isEmpty then none
  else
    let rest := match cs.dropWhile isDigit with
      | ';' :: r => r
      | r => r
    some ([ofNumber (digitsValue base digits)], rest)

/-- The longest name of the table a text begins with, as its length, whether it ends with a
semicolon, and its characters. -/
def longestName? (cs : List Char) : Option (Nat × Bool × List Char) :=
  match cs with
  | [] => none
  | c :: _ =>
    (NamedRef.startingWith c).foldl (fun best entry =>
      let name := entry.1.toList
      if name.isPrefixOf cs && best.all (·.1 < name.length) then
        some (name.length, name.getLast? == some ';', entry.2.map Char.ofNat)
      else best) none

/-- Reads a named reference. -/
def readName? (inAttribute : Bool) (cs : List Char) : Option (List Char × List Char) :=
  match longestName? cs with
  | none => none
  | some (length, isFinished, characters) =>
    let rest := cs.drop length
    let continues := rest.head?.any fun c => c == '=' || c.isAlphanum
    if inAttribute && !isFinished && continues then none else some (characters, rest)

/-- Reads what stands behind `&`: the characters it gives, and the rest. -/
def read (inAttribute : Bool) (cs : List Char) : List Char × List Char :=
  let found := match cs with
    | '#' :: 'x' :: r => readDigits? 16 isHexDigit r
    | '#' :: 'X' :: r => readDigits? 16 isHexDigit r
    | '#' :: r => readDigits? 10 Char.isDigit r
    | _ => readName? inAttribute cs
  found.getD (['&'], cs)

end ApiDoc.Html.CharRef
