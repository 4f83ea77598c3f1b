import OutboxRelay.Binary64.Basic
import OutboxRelay.Text.Digits

namespace OutboxRelay

/-- The greatest significand that a number reader keeps. -/
def significandLimit : Nat := 18446744073709551615

/-- Appends digits to a significand as long as it stays within the limit; the digits that are left
follow it. -/
def takeDigits (significand : Nat) : List Char → Nat × List Char
  | [] => (significand, [])
  | c :: rest =>
    let next := 10 * significand + (c.toNat - 48)
    if next ≤ significandLimit then takeDigits next rest else (significand, c :: rest)

namespace Binary64

/-- The number nearest to `10 ^ exponent`, for an exponent up to 308. -/
def powerOfTen (exponent : Nat) : Binary64 :=
  (ofRatio? false (Nat.pow 10 exponent) 1).getD (zero false)

/-- Scales down in steps of `10 ^ 308`; two such steps leave nothing of any number below
`10 ^ 20`, so a third is never needed. -/
def scaleDown : Nat → Binary64 → Nat → Option Binary64
  | 0, x, _ => some (zero x.negative)
  | steps + 1, x, exponent =>
    if exponent ≤ 308 then x.div? (powerOfTen exponent)
    else if x.isZero then some x
    else (x.div? (powerOfTen 308)).bind fun y => scaleDown steps y (exponent - 308)

/-- `significand * 10 ^ exponent`, rounded once as a significand and again after scaling. -/
def ofScientific? (negative : Bool) (significand : Nat) (exponent : Int) : Option Binary64 := do
  let x ← ofRatio? negative significand 1
  if exponent < 0 then scaleDown 4 x exponent.natAbs
  else if exponent ≤ 308 then x.mul? (powerOfTen exponent.toNat)
  else if x.isZero then some x
  else none

end Binary64

/-- A number as written: its sign, the digits before and after the point, and the exponent with
its sign, each part as far as it is there. -/
structure NumberLiteral where
  negative : Bool
  whole : List Char
  fraction : Option (List Char)
  exponent : Option (Bool × List Char)
  deriving DecidableEq, Repr

namespace NumberLiteral

def isWhole (n : NumberLiteral) : Bool :=
  n.fraction.isNone && n.exponent.isNone

/-- Exponents are kept within 32 bits. -/
def clampExponent (n : Int) : Int :=
  max (-2147483648) (min 2147483647 n)

/-- The floating-point value. Digits beyond the significand are dropped, those before the point
as powers of ten; a value beyond the greatest number has none. -/
def toBinary64? (n : NumberLiteral) : Option Binary64 :=
  let fraction := n.fraction.getD []
  let (significand, dropped) := takeDigits 0 n.whole
  let (significand, rest) := takeDigits significand fraction
  let shift : Int := (dropped.length : Int) - ((fraction.length - rest.length : Nat) : Int)
  match n.exponent with
  | none => Binary64.ofScientific? n.negative significand shift
  | some (below, digits) =>
    let size := Nat.ofDigitChars 10 digits 0
    if size < 0x80000000 then
      Binary64.ofScientific? n.negative significand
        (clampExponent (if below then shift - size else shift + size))
    else if significand = 0 ∨ below then some (Binary64.zero n.negative)
    else none

/-- The integer, for a number without point and exponent that fits 64 bits, signed or unsigned.
A negative zero is no integer. -/
def toInt? (n : NumberLiteral) : Option Int :=
  if n.isWhole then
    let size := Nat.ofDigitChars 10 n.whole 0
    if n.negative then
      if 0 < size ∧ size ≤ 0x8000000000000000 then some (-(size : Int)) else none
    else if size < 0x10000000000000000 then some (size : Int) else none
  else none

end NumberLiteral

end OutboxRelay
