import OutboxRelay.Binary64.Basic
import OutboxRelay.Text.Digits

namespace OutboxRelay.Binary64

/-- A magnitude over a common denominator, with the ends of the interval of numbers that round to
it. The ends belong to the interval if the mantissa is even. -/
structure Neighbourhood where
  low : Nat
  value : Nat
  high : Nat
  den : Nat
  closed : Bool

def neighbourhood (x : Binary64) : Neighbourhood :=
  let unit := x.exponent - 2
  let scale := Nat.pow 2 unit.toNat
  let below := if x.mantissa = 0x10000000000000 ∧ -1074 < x.exponent then 1 else 2
  { low := (4 * x.mantissa - below) * scale
    value := 4 * x.mantissa * scale
    high := (4 * x.mantissa + 2) * scale
    den := Nat.pow 2 (-unit).toNat
    closed := x.mantissa % 2 = 0 }

/-- The place of the point before the first digit: `10 ^ (p - 1) ≤ value / den < 10 ^ p`. -/
def Neighbourhood.point (v : Neighbourhood) : Int :=
  if v.den ≤ v.value then (Nat.toDigits 10 (v.value / v.den)).length
  else 1 - ((Nat.toDigits 10 (v.den / v.value)).length : Int)

/-- Whether `count` units of `10 ^ place` lie in the interval. -/
def Neighbourhood.holds (v : Neighbourhood) (count : Nat) (place : Int) : Bool :=
  let here := count * Nat.pow 10 place.toNat * v.den
  let low := v.low * Nat.pow 10 (-place).toNat
  let high := v.high * Nat.pow 10 (-place).toNat
  if v.closed then low ≤ here && here ≤ high else low < here && here < high

/-- Of the two neighbours on the grid of `10 ^ place` the one that reads back and is nearer; an
exact tie goes to the even one. -/
def Neighbourhood.onGrid? (v : Neighbourhood) (place : Int) : Option Nat :=
  let num := v.value * Nat.pow 10 (-place).toNat
  let den := Nat.pow 10 place.toNat * v.den
  let count := num / den
  match v.holds count place, v.holds (count + 1) place with
  | false, false => none
  | true, false => some count
  | false, true => some (count + 1)
  | true, true => some (roundHalfEven num den)

/-- Tries grids of `digits` digits and more. Seventeen digits always read back. -/
def Neighbourhood.shortestFrom (v : Neighbourhood) : Nat → Nat → Nat × Int
  | 0, digits => (v.value / v.den, digits)
  | fuel + 1, digits =>
    let place := v.point - digits
    match v.onGrid? place with
    | some count => (count, place)
    | none => v.shortestFrom fuel (digits + 1)

/-- The fewest digits that read back, without zeros at the end, and the place of the point before
the first of them. -/
def shortest (x : Binary64) : List Char × Int :=
  let (count, place) := x.neighbourhood.shortestFrom 17 1
  let digits := Nat.toDigits 10 count
  ((digits.reverse.dropWhile (· = '0')).reverse, place + digits.length)

/-- Digits with a point, for magnitudes from `1e-5` up to `1e16`; beyond, with one digit before the
point and an exponent that has a sign. -/
def text (x : Binary64) : List Char :=
  let sign := if x.negative then ['-'] else []
  if x.isZero then sign ++ ['0', '.', '0']
  else
    let (digits, point) := x.shortest
    sign ++
      if (digits.length : Int) ≤ point ∧ point ≤ 16 then
        digits ++ List.replicate (point.toNat - digits.length) '0' ++ ['.', '0']
      else if 0 < point ∧ point ≤ 16 then
        digits.take point.toNat ++ '.' :: digits.drop point.toNat
      else if -5 < point ∧ point ≤ 0 then
        '0' :: '.' :: (List.replicate (-point).toNat '0' ++ digits)
      else
        let power := point - 1
        let tail := if digits.length ≤ 1 then [] else '.' :: digits.drop 1
        digits.take 1 ++ tail ++ 'e' :: (if power < 0 then '-' else '+') ::
          Nat.toDigits 10 power.natAbs

end OutboxRelay.Binary64
