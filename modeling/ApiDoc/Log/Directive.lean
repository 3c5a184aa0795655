import ApiDoc.Decimal.Shortest
import ApiDoc.Log.Level
import ApiDoc.Log.Pattern
import ApiDoc.Text.Alphanumeric
import ApiDoc.Text.Blank

/-!
# Directives of a log filter

A directive sets the level for the events of a target, of a span or with certain fields.  It is
written `target[span\x7bfield=value\x7d]=level`; all parts but one can be left out.
-/

namespace ApiDoc

/-! ## Values of fields -/

/-- The value a field has to have. -/
inductive FieldValue
  | bool (b : Bool)
  | decimal (x : Float)
  | notANumber
  | unsigned (n : Nat)
  /-- A number written with a minus sign, without the sign. -/
  | signed (n : Nat)
  | pattern (text : String)
deriving Inhabited

namespace FieldValue

/-- The order of the kinds of values. -/
def rank : FieldValue → Nat
  | .bool _ => 0
  | .decimal _ => 1
  | .notANumber => 2
  | .unsigned _ => 3
  | .signed _ => 4
  | .pattern _ => 5

def compareFloats (x y : Float) : Ordering := if x < y then .lt else if y < x then .gt else .eq

def compareValues (a b : FieldValue) : Ordering :=
  match a, b with
  | .bool x, .bool y => compare x y
  | .decimal x, .decimal y => compareFloats x y
  | .unsigned m, .unsigned n => compare m n
  | .signed m, .signed n => compare n m
  | .pattern s, .pattern t => compare s t
  | _, _ => compare a.rank b.rank

def print : FieldValue → String
  | .bool b => if b then "true" else "false"
  | .decimal x => Decimal.print x
  | .notANumber => "NaN"
  | .unsigned n => toString n
  | .signed n => if n = 0 then "0" else "-" ++ toString n
  | .pattern text => text

/-- The sign of a number, and its text without it. -/
def splitSign (cs : List Char) : Bool × List Char :=
  match cs with
  | '-' :: r => (true, r)
  | '+' :: r => (false, r)
  | _ => (false, cs)

/-- The number a decimal text with digits, a point and an exponent stands for. -/
def decimal? (negative : Bool) (cs : List Char) : Option Float :=
  let whole := cs.takeWhile Char.isDigit
  let afterWhole := cs.dropWhile Char.isDigit
  let (fraction, rest) := match afterWhole with
    | '.' :: r => (r.takeWhile Char.isDigit, r.dropWhile Char.isDigit)
    | _ => ([], afterWhole)
  let digits := whole ++ fraction
  let value (exponent : Int) : Option Float :=
    some (Decimal.ofDecimal negative (Text.digitsValue digits) (exponent - fraction.length))
  if digits.isEmpty then none
  else
    match rest with
    | [] => value 0
    | e :: r =>
      if e = 'e' ∨ e = 'E' then
        let (down, size) := splitSign r
        (Text.digits? size).bind fun n => value (if down then -(n : Int) else n)
      else none

/-- The number a text stands for, infinities included; not-a-number is the inner `none`. -/
def float? (cs : List Char) : Option (Option Float) :=
  let (negative, magnitude) := splitSign cs
  let word := String.ofList (magnitude.map Char.toLower)
  if word = "nan" then some none
  else if word = "inf" ∨ word = "infinity" then
    let infinity := Float.ofBits 0x7FF0000000000000
    some (some (if negative then -infinity else infinity))
  else (decimal? negative magnitude).map some

/-- The number a text in digits behind a minus sign stands for, if it fits 64 bits. -/
def negative? (cs : List Char) : Option Nat :=
  match cs with
  | '-' :: r => (Text.digits? r).filter (· ≤ 0x8000000000000000)
  | _ => none

/-- The value a text stands for: the first kind that fits, and a pattern if none does. -/
def parse? (cs : List Char) : Option FieldValue :=
  if cs = "true".toList then some (.bool true)
  else if cs = "false".toList then some (.bool false)
  else
    match (Text.natural? cs).filter (· < 0x10000000000000000) with
    | some n => some (.unsigned n)
    | none =>
      match negative? cs with
      | some n => some (.signed n)
      | none =>
        match float? cs with
        | some (some x) => some (.decimal x)
        | some none => some .notANumber
        | none => if isPattern cs then some (.pattern (String.ofList cs)) else none

end FieldValue

/-- A field an event has to have, perhaps with a value. -/
structure FieldMatch where
  name : String
  value : Option FieldValue
deriving Inhabited

namespace FieldMatch

/-- A match with a value comes after one without. -/
def compareMatches (a b : FieldMatch) : Ordering :=
  (compare a.value.isSome b.value.isSome).then
    ((compare a.name b.name).then
      (match a.value, b.value with
      | some v, some w => v.compareValues w
      | _, _ => .eq))

def print (m : FieldMatch) : String :=
  match m.value with
  | some v => m.name ++ "=" ++ v.print
  | none => m.name

/-- Reads `name` or `name=value`; what follows a second `=` is ignored. -/
def parse? (cs : List Char) : Option FieldMatch :=
  match cs.splitOnP (· == '=') with
  | name :: value :: _ => (FieldValue.parse? value).map fun v => ⟨String.ofList name, some v⟩
  | _ => some ⟨String.ofList cs, none⟩

end FieldMatch

/-! ## Directives -/

structure Directive where
  level : LogLevel
  target : Option String
  span : Option String
  fields : List FieldMatch
deriving Inhabited

/-- The list of fields in braces, or nothing if there are none. -/
def printFields (fields : List String) : String :=
  if fields.isEmpty then "" else "\x7b" ++ ",".intercalate fields ++ "\x7d"

namespace Directive

/-- Whether the directive depends on spans or values that show only in a run. -/
def isDynamic (d : Directive) : Bool := d.span.isSome || !d.fields.isEmpty

/-- How specific directives are: the more specific one comes first. -/
def compareSpecific (a b : Directive) : Ordering :=
  let size (d : Directive) : Option Nat := d.target.map String.utf8ByteSize
  ((compare (size a) (size b)).then
    ((compare a.span.isSome b.span.isSome).then
      ((compare a.fields.length b.fields.length).then
        ((compare a.target b.target).then
          ((compare a.span b.span).then
            (List.compareLex FieldMatch.compareMatches a.fields b.fields)))))).swap

def print (d : Directive) : String :=
  let fields := printFields (d.fields.map FieldMatch.print)
  let scope := if d.isDynamic then "[" ++ d.span.getD "" ++ fields ++ "]" else ""
  let equals := if d.target.isSome || d.span.isSome || !d.fields.isEmpty then "=" else ""
  d.target.getD "" ++ scope ++ equals ++ d.level.name

/-! ## Reading -/

/-- What part of a directive is being read, and where it began, counted in bytes. -/
inductive Part
  | start
  | levelOrTarget (first : Nat)
  | span (first : Nat)
  | field (first : Nat)
  | behindField
  | behindScope
  | level (first : Nat)

/-- The characters of a text from one byte to another. -/
def cut (cs : List Char) (first : Nat) (last : Nat) : List Char :=
  let rec go (i : Nat) : List Char → List Char
    | [] => []
    | c :: r =>
      if i < first then go (i + c.utf8Size) r
      else if i < last then c :: go (i + c.utf8Size) r
      else []
  go 0 cs

/-- Whether a directive can begin with a character. -/
def isStart (c : Char) : Bool := c == '-' || c == ':' || c == '_' || Text.isAlphanumeric c

/-- Reads one character, which stands at byte `i`.  The parts are cut from `text`. -/
def step (text : List Char) (d : Directive) (part : Part) (i : Nat) (c : Char) :
    Option (Directive × Part) :=
  let since (first : Nat) : List Char := cut text first i
  let named (first : Nat) : Option String := some (String.ofList (since first))
  match part with
  | .start =>
    if c = '[' then some (d, .span (i + 1))
    else if isStart c then some (d, .levelOrTarget i)
    else none
  | .levelOrTarget first =>
    if c = '=' then some ({ d with target := named first }, .level (i + 1))
    else if c = '[' then some ({ d with target := named first }, .span (i + 1))
    else some (d, part)
  | .span first =>
    if c = ']' then some ({ d with span := named first }, .behindScope)
    else if c = '\x7b' then
      let span := if (since first).isEmpty then none else named first
      some ({ d with span := span }, .field (i + 1))
    else some (d, part)
  | .field first =>
    if c = '\x7d' then
      if (since first).isEmpty then none
      else (FieldMatch.parse? (since first)).map fun m =>
        ({ d with fields := d.fields ++ [m] }, .behindField)
    else some (d, part)
  | .behindField => if c = ']' then some (d, .behindScope) else none
  | .behindScope => if c = '=' then some (d, .level (i + 1)) else none
  | .level _ => some (d, part)

/-- Reads the last part at the end of the text. -/
def finish (text : List Char) (d : Directive) (part : Part) : Option Directive :=
  let since (first : Nat) : List Char := cut text first (String.ofList text).utf8ByteSize
  match part with
  | .levelOrTarget first =>
    let word := since first
    if word.isEmpty then some { d with level := .trace, target := none }
    else
      match LogLevel.parse? word with
      | some l => some { d with level := l, target := none }
      | none => some { d with level := .trace, target := some (String.ofList word) }
  | .level first =>
    let word := since first
    if word.isEmpty then some { d with level := .trace }
    else (LogLevel.parse? word).map fun l => { d with level := l }
  | .behindScope => some d
  | _ => none

/-- Reads the characters of a trimmed text from byte `i` on. -/
def readFrom (text : List Char) (d : Directive) (part : Part) (i : Nat) :
    List Char → Option Directive
  | [] => finish text d part
  | c :: r =>
    match step text d part i c with
    | some (d, part) => readFrom text d part (i + c.utf8Size) r
    | none => none

/-- Reads a directive.  Its characters are gone through without the blanks around it, and its parts
are cut at the same places from the text with the blanks. -/
def parse? (text : List Char) : Option Directive :=
  readFrom text ⟨.trace, none, none, []⟩ .start 0 (Text.trim text)

end Directive

end ApiDoc
