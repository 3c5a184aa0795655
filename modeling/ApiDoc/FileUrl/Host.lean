import ApiDoc.Text.Alphanumeric
import ApiDoc.Text.Utf8

/-!
# Hosts of URLs

A host is an IPv6 address in brackets, an IPv4 address, or a domain without forbidden characters.
Only whether a text is a host matters here.
-/

namespace ApiDoc.FileUrl

/-! ## Numbers -/

/-- The value of a digit in a base up to sixteen. -/
def digitValue? (base : Nat) (c : Char) : Option Nat :=
  let v :=
    if c.isDigit then c.toNat - 48
    else if 'a' ≤ c ∧ c ≤ 'f' then c.toNat - 87
    else if 'A' ≤ c ∧ c ≤ 'F' then c.toNat - 55
    else 16
  if v < base then some v else none

/-- The value of digits in a base. -/
def number? (base : Nat) (cs : List Char) : Option Nat :=
  cs.foldl (fun acc c => acc.bind fun n => (digitValue? base c).map (n * base + ·)) (some 0)

/-! ## IPv4 -/

/-- A part of an IPv4 address: hexadecimal behind `0x`, octal behind another `0`, else decimal. -/
def ipv4Number? : List Char → Option Nat
  | [] => none
  | ['0'] => some 0
  | '0' :: 'x' :: r => number? 16 r
  | '0' :: 'X' :: r => number? 16 r
  | '0' :: r => number? 8 r
  | r => number? 10 r

/-- The dotted parts, without an empty one at the end. -/
def dottedParts (cs : List Char) : List (List Char) :=
  let parts := cs.splitOnP (· == '.')
  if parts.getLast? = some [] then parts.dropLast else parts

/-- Whether a domain has to be an IPv4 address: its last part is a number. -/
def endsInNumber (cs : List Char) : Bool :=
  match (dottedParts cs).getLast? with
  | none => false
  | some last => (!last.isEmpty && last.all Char.isDigit) || (ipv4Number? last).isSome

/-- At most four numbers, all but the last below 256, the last within the bytes that remain. -/
def isIpv4 (cs : List Char) : Bool :=
  let parts := dottedParts cs
  let numbers := parts.filterMap ipv4Number?
  parts.length ≤ 4 && numbers.length == parts.length && numbers.dropLast.all (· ≤ 255) &&
    (numbers.getLast?.any fun n => n < Nat.pow 256 (5 - numbers.length))

/-! ## IPv6 -/

/-- Four numbers of at most three digits below 256, without leading zeros. -/
def isDottedQuad (cs : List Char) : Bool :=
  let parts := cs.splitOnP (· == '.')
  parts.length == 4 && parts.all fun p =>
    !p.isEmpty && p.length ≤ 3 && (p.length == 1 || p.head? != some '0') &&
      (number? 10 p).any (· ≤ 255)

/-- The number of 16-bit pieces a run of groups stands for, if each group is up to four
hexadecimal digits; a dotted quad at the end of an address counts as two. -/
def groupPieces? (isLast : Bool) (cs : List Char) : Option Nat :=
  if cs.isEmpty then some 0
  else
    let groups := cs.splitOnP (· == ':')
    let isGroup (g : List Char) : Bool :=
      !g.isEmpty && g.length ≤ 4 && (number? 16 g).isSome
    if groups.all isGroup then some groups.length
    else if isLast && groups.dropLast.all isGroup && groups.getLast?.any isDottedQuad then
      some (groups.length + 1)
    else none

/-- The parts of an address around the first `::`, if there is one. -/
def cutAtDoubleColon? : List Char → Option (List Char × List Char)
  | ':' :: ':' :: r => some ([], r)
  | [] => none
  | c :: r => (cutAtDoubleColon? r).map fun p => (c :: p.1, p.2)

/-- Eight pieces, or fewer around one `::`. -/
def isIpv6 (cs : List Char) : Bool :=
  match cutAtDoubleColon? cs with
  | none => groupPieces? true cs == some 8
  | some (before, after) =>
    match groupPieces? false before, groupPieces? true after with
    | some m, some n => m + n ≤ 7
    | _, _ => false

/-! ## Domains -/

/-- Decodes `%` with two hexadecimal digits; everything else stands for its own bytes. -/
def percentDecode : List Char → List UInt8
  | [] => []
  | '%' :: a :: b :: r =>
    match digitValue? 16 a, digitValue? 16 b with
    | some h, some l => (h * 16 + l).toUInt8 :: percentDecode r
    | _, _ => "%".toUTF8.toList ++ percentDecode (a :: b :: r)
  | c :: r => c.toString.toUTF8.toList ++ percentDecode r

/-- The ASCII characters that no domain holds. -/
def isForbidden (c : Char) : Bool :=
  c.toNat ≤ 32 || c.toNat == 127 || "#%/:<>?@[\\]^|".toList.contains c

/-- Domains beyond ASCII hold letters and numbers. -/
def isDomainChar (c : Char) : Bool :=
  if c.toNat < 128 then !isForbidden c else Text.isAlphanumeric c

/-- Whether a text is a host.  A label beyond ASCII is taken as it stands, without the mapping of
international names. -/
def isHost (cs : List Char) : Bool :=
  match cs with
  | '[' :: r => r.getLast? == some ']' && isIpv6 r.dropLast
  | _ =>
    let domain := Text.decodeLossy (percentDecode cs)
    !domain.isEmpty && domain.all isDomainChar && (!endsInNumber domain || isIpv4 domain)

end ApiDoc.FileUrl
