namespace OutboxRelay

/-- The finite number `mantissa * 2 ^ exponent`, or its negative. Canonical numbers have a mantissa
below `2 ^ 53` and an exponent from -1074 to 971, and below `2 ^ 52` only the least exponent. -/
structure Binary64 where
  negative : Bool
  mantissa : Nat
  exponent : Int
  deriving DecidableEq, Repr

namespace Binary64

def zero (negative : Bool) : Binary64 := ⟨negative, 0, -1074⟩

/-- The whole number nearest to `num / den`; a half goes to the even neighbour. -/
def roundHalfEven (num den : Nat) : Nat :=
  let quotient := num / den
  let twice := 2 * (num % den)
  if twice < den then quotient
  else if den < twice then quotient + 1
  else quotient + quotient % 2

/-- `num / den` as a fraction of units of `2 ^ exponent`. -/
def inUnits (num den : Nat) (exponent : Int) : Nat × Nat :=
  (num * Nat.pow 2 (-exponent).toNat, den * Nat.pow 2 exponent.toNat)

/-- The unit in which `num / den` has 53 digits, or the least unit there is. -/
def unitExponent (num den : Nat) : Int :=
  let low := max (-1074) ((num.log2 : Int) - den.log2 - 53)
  let (n, d) := inUnits num den low
  if n / d < 0x20000000000000 then low else low + 1

/-- The number nearest to `num / den`, unless that is beyond the greatest one. -/
def ofRatio? (negative : Bool) (num den : Nat) : Option Binary64 :=
  if num = 0 then some (zero negative)
  else
    let exponent := unitExponent num den
    let (n, d) := inUnits num den exponent
    let mantissa := roundHalfEven n d
    let (mantissa, exponent) :=
      if mantissa = 0x20000000000000 then (0x10000000000000, exponent + 1) else (mantissa, exponent)
    if exponent ≤ 971 then some ⟨negative, mantissa, exponent⟩ else none

/-- The numerator and denominator of the magnitude. -/
def ratio (x : Binary64) : Nat × Nat :=
  (x.mantissa * Nat.pow 2 x.exponent.toNat, Nat.pow 2 (-x.exponent).toNat)

def mul? (x y : Binary64) : Option Binary64 :=
  let (a, b) := x.ratio
  let (c, d) := y.ratio
  ofRatio? (x.negative != y.negative) (a * c) (b * d)

/-- `y` must not be zero. -/
def div? (x y : Binary64) : Option Binary64 :=
  let (a, b) := x.ratio
  let (c, d) := y.ratio
  ofRatio? (x.negative != y.negative) (a * d) (b * c)

def isZero (x : Binary64) : Bool := x.mantissa == 0

/-- The nearest number; every integer of 64 bits has one. -/
def ofInt (n : Int) : Binary64 :=
  (ofRatio? (n < 0) n.natAbs 1).getD (zero false)

/-- The greatest integer that is not above. -/
def floor (x : Binary64) : Int :=
  let (a, b) := x.ratio
  if x.negative then -(((a + b - 1) / b : Nat) : Int) else ((a / b : Nat) : Int)

end Binary64

end OutboxRelay
