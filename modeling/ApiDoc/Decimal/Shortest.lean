/-!
# Decimal texts of floating point numbers

A finite number is written with the fewest decimal digits that read back as the same number, and
of two such texts with the nearer one.  Digits are written out in full, without an exponent.
-/

namespace ApiDoc.Decimal

/-! ## Reading -/

/-- The number `± digits · 10 ^ exponent`, rounded to the nearest one with ties to even.  An
exponent far outside the range of the format gives an infinity or zero at once. -/
def ofDecimal (negative : Bool) (digits : Nat) (exponent : Int) : Float :=
  let size : Int := (Nat.toDigits 10 digits).length
  let magnitude : Float :=
    if digits = 0 ∨ exponent + size < -400 then 0
    else if 400 < exponent + size then Float.ofBits 0x7FF0000000000000
    else Float.ofScientific digits (decide (exponent < 0)) exponent.natAbs
  if negative then -magnitude else magnitude

/-! ## Writing -/

/-- A positive finite number as `significand · 2 ^ exponent`. -/
structure Binary where
  significand : Nat
  exponent : Int
  /-- Whether the gap below is half the gap above. -/
  narrowBelow : Bool

/-- The parts of the magnitude of a finite number. -/
def Binary.ofFloat (x : Float) : Binary :=
  let bits : Nat := x.toBits.toNat % 0x8000000000000000
  let e : Nat := bits / 0x10000000000000
  let fraction : Nat := bits % 0x10000000000000
  if e = 0 then ⟨fraction, -1074, false⟩
  else ⟨0x10000000000000 + fraction, (e : Int) - 1075, fraction == 0 && 1 < e⟩

/-- The numbers that read back as a given one lie between two bounds.  Everything is scaled to
whole numbers: the value is `value / unit`. -/
structure Scaled where
  value : Nat
  low : Nat
  high : Nat
  unit : Nat
  /-- Whether the bounds themselves read back. -/
  closed : Bool

/-- The bounds of a number, in quarters of its last place. -/
def Binary.scaled (b : Binary) : Scaled :=
  let up := if 0 ≤ b.exponent then Nat.pow 2 b.exponent.toNat else 1
  let unit := if 0 ≤ b.exponent then 4 else 4 * Nat.pow 2 (-b.exponent).toNat
  ⟨4 * b.significand * up,
    (4 * b.significand - if b.narrowBelow then 1 else 2) * up,
    (4 * b.significand + 2) * up,
    unit,
    b.significand % 2 == 0⟩

/-- Whether `n / d` reads back as the number. -/
def Scaled.admits (s : Scaled) (n d : Nat) : Bool :=
  let x := n * s.unit
  if s.closed then decide (s.low * d ≤ x ∧ x ≤ s.high * d)
  else decide (s.low * d < x ∧ x < s.high * d)

/-- The power of ten above a number: the least `k` with `value / unit < 10 ^ k`, found by going up
from a start that is too low. -/
def Scaled.magnitude (s : Scaled) : Nat → Int → Int
  | 0, k => k
  | n + 1, k =>
    let small :=
      if 0 ≤ k then decide (s.value < s.unit * Nat.pow 10 k.toNat)
      else decide (s.value * Nat.pow 10 (-k).toNat < s.unit)
    if small then k else magnitude s n (k + 1)

/-- A decimal number `digits · 10 ^ exponent`. -/
structure Written where
  digits : Nat
  exponent : Int

/-- The nearest multiple of `10 ^ e` that reads back, if one of the two neighbours does. -/
def Scaled.onGrid (s : Scaled) (e : Int) : Option Written :=
  let scale := if 0 ≤ e then Nat.pow 10 e.toNat else 1
  let shift := if 0 ≤ e then 1 else Nat.pow 10 (-e).toNat
  let n := s.value * shift
  let d := s.unit * scale
  let below := n / d
  let belowOk := s.admits (below * scale) shift
  let aboveOk := s.admits ((below + 1) * scale) shift
  let nearerBelow := 2 * (n % d) ≤ d
  if belowOk && (nearerBelow || !aboveOk) then some ⟨below, e⟩
  else if aboveOk then some ⟨below + 1, e⟩
  else none

/-- The first of the grids with one digit, two digits and so on that has a number that reads
back. -/
def Scaled.shortest (s : Scaled) : Written :=
  let top := s.magnitude 700 (-330)
  ((List.range 18).findSome? fun (i : Nat) => s.onGrid (top - 1 - (i : Int))).getD ⟨0, 0⟩

/-- The digits of a decimal number written out. -/
def Written.print (w : Written) : List Char :=
  let ds := Nat.toDigits 10 w.digits
  if 0 ≤ w.exponent then ds ++ List.replicate w.exponent.toNat '0'
  else
    let places := (-w.exponent).toNat
    let padded := List.replicate (places + 1 - ds.length) '0' ++ ds
    let whole := padded.take (padded.length - places)
    let fraction := ((padded.drop (padded.length - places)).reverse.dropWhile (· == '0')).reverse
    if fraction.isEmpty then whole else whole ++ '.' :: fraction

/-- The text of a number. -/
def print (x : Float) : String :=
  let sign := if x.toBits.toNat < 0x8000000000000000 then "" else "-"
  if x.isNaN then "NaN"
  else if x.isInf then sign ++ "inf"
  else
    let b := Binary.ofFloat x
    if b.significand = 0 then sign ++ "0" else sign ++ String.ofList b.scaled.shortest.print

/-- The text of a number with a decimal point if it is finite. -/
def printWithPoint (x : Float) : String :=
  let text := print x
  if x.isFinite && !text.toList.contains '.' then text ++ ".0" else text

end ApiDoc.Decimal
