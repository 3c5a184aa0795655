/-!
# UTF-8

Bytes are decoded leniently: each maximal start of a sequence that cannot be completed becomes one
replacement character.
-/

namespace ApiDoc.Text

/-- Stands for bytes that are no character. -/
def replacement : Char := '\uFFFD'

/-- The first byte of a longer sequence: the number of bytes that follow, its own bits, and the
range of the byte after it, which excludes overlong forms, surrogates and values too large. -/
def leadByte? (b : UInt8) : Option (Nat × Nat × Nat × Nat) :=
  let n := b.toNat
  if 0xC2 ≤ n ∧ n ≤ 0xDF then some (1, n - 0xC0, 0x80, 0xBF)
  else if n = 0xE0 then some (2, 0, 0xA0, 0xBF)
  else if n = 0xED then some (2, 0xD, 0x80, 0x9F)
  else if 0xE1 ≤ n ∧ n ≤ 0xEF then some (2, n - 0xE0, 0x80, 0xBF)
  else if n = 0xF0 then some (3, 0, 0x90, 0xBF)
  else if n = 0xF4 then some (3, 4, 0x80, 0x8F)
  else if 0xF1 ≤ n ∧ n ≤ 0xF3 then some (3, n - 0xF0, 0x80, 0xBF)
  else none

/-- A sequence of which some bytes are read: the bits so far, the bytes still to come, and the
range of the next one. -/
structure Pending where
  bits : Nat
  missing : Nat
  low : Nat
  high : Nat

/-- Decodes bytes, with the sequence that has begun. -/
def decodeFrom (pending : Option Pending) : List UInt8 → List Char
  | [] => if pending.isSome then [replacement] else []
  | b :: r =>
    let fresh (_ : Unit) : List Char :=
      if b.toNat < 0x80 then Char.ofNat b.toNat :: decodeFrom none r
      else
        match leadByte? b with
        | some (missing, bits, low, high) => decodeFrom (some ⟨bits, missing, low, high⟩) r
        | none => replacement :: decodeFrom none r
    match pending with
    | none => fresh ()
    | some p =>
      if p.low ≤ b.toNat ∧ b.toNat ≤ p.high then
        let bits := p.bits * 64 + (b.toNat - 0x80)
        if p.missing ≤ 1 then Char.ofNat bits :: decodeFrom none r
        else decodeFrom (some ⟨bits, p.missing - 1, 0x80, 0xBF⟩) r
      else replacement :: fresh ()

/-- Decodes bytes leniently. -/
def decodeLossy (bytes : List UInt8) : List Char := decodeFrom none bytes

end ApiDoc.Text
