import ApiDoc.Decimal.Shortest
import ApiDoc.Text.Natural
import ApiDoc.Toml.Value

/-!
# TOML strings, numbers and dates

Each reader takes the text from where a value begins and gives the value with the text behind it.
-/

namespace ApiDoc.Toml

/-! ## Strings -/

/-- Whether a character can stand for itself in any text: no control character but the tab. -/
def isTextChar (c : Char) : Bool := c == '\t' || (32 ≤ c.toNat && c.toNat != 127)

def hexValue? (c : Char) : Option Nat :=
  if c.isDigit then some (c.toNat - 48)
  else if 'a' ≤ c ∧ c ≤ 'f' then some (c.toNat - 87)
  else if 'A' ≤ c ∧ c ≤ 'F' then some (c.toNat - 55)
  else none

/-- The character with a code in hexadecimal digits. -/
def hexChar? (digits : List Char) : Option Char := do
  let values ← digits.mapM hexValue?
  let code := values.foldl (fun n d => 16 * n + d) 0
  if code < 0xD800 ∨ (0xDFFF < code ∧ code < 0x110000) then some (Char.ofNat code) else none

/-- The character a letter behind a backslash stands for. -/
def escaped? (c : Char) : Option Char :=
  match c with
  | 'b' => some '\x08'
  | 't' => some '\t'
  | 'n' => some '\n'
  | 'f' => some '\x0c'
  | 'r' => some '\r'
  | '"' => some '"'
  | '\\' => some '\\'
  | _ => none

/-- Puts a character in front of what was read. -/
def withChar (c : Char) (read : Option (List Char × List Char)) : Option (List Char × List Char) :=
  read.map fun p => (c :: p.1, p.2)

/-- Reads a string to its closing quote. -/
def basicString : List Char → Option (List Char × List Char)
  | [] => none
  | '"' :: r => some ([], r)
  | '\\' :: 'u' :: a :: b :: c :: d :: r =>
    (hexChar? [a, b, c, d]).bind fun x => withChar x (basicString r)
  | '\\' :: 'U' :: a :: b :: c :: d :: e :: f :: g :: h :: r =>
    (hexChar? [a, b, c, d, e, f, g, h]).bind fun x => withChar x (basicString r)
  | '\\' :: c :: r => (escaped? c).bind fun x => withChar x (basicString r)
  | c :: r => if isTextChar c && c != '\\' then withChar c (basicString r) else none

/-- Reads a string without escapes to its closing apostrophe. -/
def literalString : List Char → Option (List Char × List Char)
  | [] => none
  | c :: r =>
    if c = '\'' then some ([], r)
    else if isTextChar c then withChar c (literalString r)
    else none

/-- The quotes that end a string of several lines, if at least three stand here: the ones that
belong to the string, and the text behind. -/
def closingQuotes (quote : Char) (cs : List Char) : Option (List Char × List Char) :=
  let run := (cs.takeWhile (· == quote)).length
  if run < 3 then none
  else
    let inside := min (run - 3) 2
    some (List.replicate inside quote, cs.drop (3 + inside))

/-- Whether a line ends here, blanks left aside. -/
def atLineEnd (cs : List Char) : Bool :=
  match cs.dropWhile fun c => c == ' ' || c == '\t' with
  | '\n' :: _ => true
  | '\r' :: '\n' :: _ => true
  | _ => false

/-- Reads a string of several lines to its closing quotes.  Behind a backslash at the end of a line
blanks and line breaks are skipped. -/
def longBasicString (skipping : Bool) : List Char → Option (List Char × List Char)
  | [] => none
  | '"' :: r =>
    match closingQuotes '"' ('"' :: r) with
    | some p => some p
    | none => withChar '"' (longBasicString false r)
  | '\n' :: r => if skipping then longBasicString true r else withChar '\n' (longBasicString false r)
  | '\r' :: '\n' :: r =>
    if skipping then longBasicString true r else withChar '\n' (longBasicString false r)
  | '\\' :: 'u' :: a :: b :: c :: d :: r =>
    (hexChar? [a, b, c, d]).bind fun x => withChar x (longBasicString false r)
  | '\\' :: 'U' :: a :: b :: c :: d :: e :: f :: g :: h :: r =>
    (hexChar? [a, b, c, d, e, f, g, h]).bind fun x => withChar x (longBasicString false r)
  | '\\' :: c :: r =>
    match escaped? c with
    | some x => withChar x (longBasicString false r)
    | none => if atLineEnd (c :: r) then longBasicString true (c :: r) else none
  | c :: r =>
    if skipping && (c == ' ' || c == '\t') then longBasicString true r
    else if isTextChar c && c != '\\' then withChar c (longBasicString false r)
    else none

/-- Reads a string of several lines without escapes to its closing apostrophes. -/
def longLiteralString : List Char → Option (List Char × List Char)
  | [] => none
  | '\'' :: r =>
    match closingQuotes '\'' ('\'' :: r) with
    | some p => some p
    | none => withChar '\'' (longLiteralString r)
  | '\n' :: r => withChar '\n' (longLiteralString r)
  | '\r' :: '\n' :: r => withChar '\n' (longLiteralString r)
  | c :: r => if isTextChar c then withChar c (longLiteralString r) else none

/-- The text behind a line break, if one stands here. -/
def dropLineBreak (cs : List Char) : List Char :=
  match cs with
  | '\n' :: r => r
  | '\r' :: '\n' :: r => r
  | _ => cs

/-- Reads a string of any kind. -/
def anyString (cs : List Char) : Option (List Char × List Char) :=
  match cs with
  | '"' :: '"' :: '"' :: r => longBasicString false (dropLineBreak r)
  | '"' :: r => basicString r
  | '\'' :: '\'' :: '\'' :: r => longLiteralString (dropLineBreak r)
  | '\'' :: r => literalString r
  | _ => none

/-! ## Numbers -/

/-- Reads more digits; an underscore has to stand between two of them. -/
def moreDigits (isDigit : Char → Bool) : List Char → Option (List Char × List Char)
  | [] => some ([], [])
  | '_' :: c :: r => if isDigit c then withChar c (moreDigits isDigit r) else none
  | c :: r =>
    if c = '_' then none
    else if isDigit c then withChar c (moreDigits isDigit r)
    else some ([], c :: r)

/-- Reads one or more digits. -/
def someDigits (isDigit : Char → Bool) (cs : List Char) : Option (List Char × List Char) :=
  match cs with
  | [] => none
  | c :: r => if isDigit c then withChar c (moreDigits isDigit r) else none

/-- Reads a number without a leading zero, or zero. -/
def wholeNumber (cs : List Char) : Option (List Char × List Char) :=
  match cs with
  | '0' :: r => some (['0'], r)
  | _ => someDigits Char.isDigit cs

/-- Whether a number is negative, and the text behind its sign. -/
def sign (cs : List Char) : Bool × List Char :=
  match cs with
  | '-' :: r => (true, r)
  | '+' :: r => (false, r)
  | _ => (false, cs)

/-- The value of digits in a base. -/
def digitsIn (base : Nat) (digits : List Char) : Nat :=
  digits.foldl (fun n c => base * n + (hexValue? c).getD 0) 0

/-- An integer of 64 bits. -/
def integer? (negative : Bool) (magnitude : Nat) : Option Toml :=
  if magnitude < 0x8000000000000000 ∨ (negative ∧ magnitude = 0x8000000000000000) then
    some (.integer (if negative then -(magnitude : Int) else magnitude))
  else none

/-- Reads an integer behind the mark of its base. -/
def readIntegerIn (base : Nat) (cs : List Char) : Option (Toml × List Char) := do
  let isDigit (c : Char) : Bool := (hexValue? c).any (· < base)
  let (digits, rest) ← someDigits isDigit cs
  let v ← integer? false (digitsIn base digits)
  return (v, rest)

/-- Reads an integer. -/
def readInteger (cs : List Char) : Option (Toml × List Char) :=
  match cs with
  | '0' :: 'x' :: r => readIntegerIn 16 r
  | '0' :: 'o' :: r => readIntegerIn 8 r
  | '0' :: 'b' :: r => readIntegerIn 2 r
  | _ => do
    let (negative, unsigned) := sign cs
    let (digits, rest) ← wholeNumber unsigned
    let v ← integer? negative (digitsIn 10 digits)
    return (v, rest)

/-- Reads an exponent behind its letter. -/
def exponent (cs : List Char) : Option (Int × List Char) := do
  let (negative, unsigned) := sign cs
  let (digits, rest) ← someDigits Char.isDigit unsigned
  let n := digitsIn 10 digits
  return (if negative then -(n : Int) else n, rest)

/-- Reads an exponent if its letter stands here. -/
def exponentIfAny (cs : List Char) : Option (Option Int × List Char) :=
  match cs with
  | 'e' :: r => (exponent r).map fun p => (some p.1, p.2)
  | 'E' :: r => (exponent r).map fun p => (some p.1, p.2)
  | _ => some (none, cs)

/-- Reads a number with a fraction, an exponent or both.  One that is too large is refused if it is
positive. -/
def readDecimal (cs : List Char) : Option (Toml × List Char) := do
  let (negative, unsigned) := sign cs
  let (whole, afterWhole) ← wholeNumber unsigned
  let (fraction, afterFraction) ← match afterWhole with
    | '.' :: r => someDigits Char.isDigit r
    | _ => some ([], afterWhole)
  let (power, rest) ← exponentIfAny afterFraction
  if fraction.isEmpty && power.isNone then none
  let digits := whole ++ fraction
  let x := Decimal.ofDecimal negative (digitsIn 10 digits) (power.getD 0 - fraction.length)
  if x.isInf && !negative then none
  return (.float x, rest)

/-- Reads an infinity or not-a-number. -/
def specialFloat (cs : List Char) : Option (Toml × List Char) :=
  let infinity := Float.ofBits 0x7FF0000000000000
  match sign cs with
  | (negative, 'i' :: 'n' :: 'f' :: r) => some (.float (if negative then -infinity else infinity), r)
  | (_, 'n' :: 'a' :: 'n' :: r) => some (.float (0.0 / 0.0), r)
  | _ => none

/-! ## Dates and times -/

/-- Reads a number of just so many digits in a range. -/
def fixedDigits (size low high : Nat) (cs : List Char) : Option (Nat × List Char) :=
  let digits := cs.take size
  let n := digitsIn 10 digits
  if digits.length = size && digits.all Char.isDigit && low ≤ n && n ≤ high then
    some (n, cs.drop size)
  else none

/-- The text behind a mark. -/
def mark (c : Char) (cs : List Char) : Option (List Char) :=
  match cs with
  | x :: r => if x = c then some r else none
  | [] => none

def isLeapYear (year : Nat) : Bool := year % 4 == 0 && (year % 100 != 0 || year % 400 == 0)

def daysInMonth (year month : Nat) : Nat :=
  if month = 2 then (if isLeapYear year then 29 else 28)
  else if month = 4 ∨ month = 6 ∨ month = 9 ∨ month = 11 then 30
  else 31

/-- The text behind a date. -/
def afterDate (cs : List Char) : Option (List Char) := do
  let (year, r) ← fixedDigits 4 0 9999 cs
  let (month, r) ← fixedDigits 2 1 12 (← mark '-' r)
  let (_, r) ← fixedDigits 2 1 (daysInMonth year month) (← mark '-' r)
  return r

/-- The text behind hours and minutes. -/
def afterMinutes (cs : List Char) : Option (List Char) := do
  let (_, r) ← fixedDigits 2 0 23 cs
  let (_, r) ← fixedDigits 2 0 59 (← mark ':' r)
  return r

/-- The text behind a time. -/
def afterTime (cs : List Char) : Option (List Char) := do
  let r ← afterMinutes cs
  let (_, r) ← fixedDigits 2 0 60 (← mark ':' r)
  match r with
  | '.' :: f :: more => if f.isDigit then return more.dropWhile Char.isDigit else return r
  | _ => return r

/-- The text behind an offset from universal time, if one stands here. -/
def afterOffset (cs : List Char) : List Char :=
  match cs with
  | 'Z' :: r => r
  | 'z' :: r => r
  | '+' :: r => (afterMinutes r).getD cs
  | '-' :: r => (afterMinutes r).getD cs
  | _ => cs

/-- Reads a date, a time, or both. -/
def datetime? (cs : List Char) : Option (Toml × List Char) :=
  match afterDate cs with
  | none => (afterTime cs).map fun r => (.datetime, r)
  | some r =>
    let timed : Option (List Char) := match r with
      | c :: more => if c = 'T' ∨ c = 't' ∨ c = ' ' then (afterTime more).map afterOffset else none
      | [] => none
    some (.datetime, timed.getD r)

/-- Reads a number or a date. -/
def numberOrDate (cs : List Char) : Option (Toml × List Char) :=
  (((datetime? cs).or (readDecimal cs)).or (specialFloat cs)).or (readInteger cs)

/-- Reads a word. -/
def keyword (cs : List Char) : Option (Toml × List Char) :=
  match cs with
  | 't' :: 'r' :: 'u' :: 'e' :: r => some (.boolean true, r)
  | 'f' :: 'a' :: 'l' :: 's' :: 'e' :: r => some (.boolean false, r)
  | _ => specialFloat cs

end ApiDoc.Toml
