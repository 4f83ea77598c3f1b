import OutboxRelay.Text.Digits

namespace OutboxRelay

/-- The number `digits / 10 ^ scale`, or its negative. The scale is kept, so that `1.0` and `1` are
written differently. -/
structure Decimal where
  negative : Bool
  digits : Nat
  scale : Int
  deriving DecidableEq, Repr

namespace Decimal

/-- Digits without a sign; underscores between them are ignored. -/
def readDigits? : List Char → Option Nat
  | '_' :: _ => none
  | cs => decimal? (cs.filter (· ≠ '_'))

def readSigned? : List Char → Option (Bool × Nat)
  | '-' :: cs => (readDigits? cs).map fun n => (true, n)
  | '+' :: cs => (readDigits? cs).map fun n => (false, n)
  | cs => (readDigits? cs).map fun n => (false, n)

/-- An optional sign, digits with an optional point, and an optional exponent. -/
def ofText? (s : String) : Option Decimal := do
  let cs := s.toList
  let isMark (c : Char) : Bool := c == 'e' || c == 'E'
  let base := cs.takeWhile fun c => !isMark c
  let exponent ← match cs.dropWhile fun c => !isMark c with
    | [] => some 0
    | _ :: digits => signedDecimal? digits
  let whole := base.takeWhile (· ≠ '.')
  let fraction := (base.dropWhile (· ≠ '.')).drop 1
  let (negative, digits) ← readSigned? (whole ++ fraction)
  let scale := ((fraction.filter (· ≠ '_')).length : Int) - exponent
  if -0x8000000000000000 ≤ scale ∧ scale < 0x8000000000000000 then
    return ⟨negative && digits != 0, digits, scale⟩
  else none

/-- The first digit, the others after a point, and the power of ten of the first. -/
def scientific (digits : List Char) (scale : Int) : List Char :=
  let fraction := if digits.length ≤ 1 then [] else '.' :: digits.drop 1
  let exponent : Int := digits.length - 1 - scale
  digits.take 1 ++ fraction ++ ['E'] ++ (if exponent < 0 then ['-'] else ['+']) ++
    Nat.toDigits 10 exponent.natAbs

/-- All digits, with as many decimals as the scale says. More than five zeros after the point, or
more than fifteen at the end of a whole number, are written as an exponent. Zero has no
decimals. -/
def text (d : Decimal) : String :=
  let sign := if d.negative then ['-'] else []
  let digits := Nat.toDigits 10 d.digits
  let body :=
    if d.digits = 0 then ['0']
    else if digits.length + 5 < d.scale then scientific digits d.scale
    else if 0 < d.scale then
      let places := d.scale.toNat
      let filled := padDigits (places + 1) d.digits
      filled.take (filled.length - places) ++ '.' :: filled.drop (filled.length - places)
    else if d.scale < -15 then digits ++ ['e', '+'] ++ Nat.toDigits 10 d.scale.natAbs
    else digits ++ List.replicate d.scale.natAbs '0'
  String.ofList (sign ++ body)

end Decimal

end OutboxRelay
