namespace OutboxRelay.Punycode

/-- The digits of base 36: letters, then figures. -/
def digit (n : Nat) : Char :=
  if n < 26 then Char.ofNat (0x61 + n) else Char.ofNat (0x30 + (n - 26))

/-- From which value on the digit at a place is not the last one. -/
def threshold (place bias : Nat) : Nat := max 1 (min 26 (place - bias))

theorem threshold_pos (place bias : Nat) : 1 ≤ threshold place bias := Nat.le_max_left _ _

/-- A number in digits whose thresholds depend on the bias. -/
def digits (n place bias : Nat) : List Char :=
  let t := threshold place bias
  if t ≤ n then digit (t + (n - t) % (36 - t)) :: digits ((n - t) / (36 - t)) (place + 36) bias
  else [digit n]
termination_by n
decreasing_by
  have positive := threshold_pos place bias
  have := Nat.div_le_self (n - threshold place bias) (36 - threshold place bias)
  omega

def damp (delta steps : Nat) : Nat :=
  if 455 < delta then damp (delta / 35) (steps + 36) else steps + 36 * delta / (delta + 38)
termination_by delta
decreasing_by omega

/-- The bias after a delta; `handled` counts the characters written, this one included. -/
def adapt (delta handled : Nat) (first : Bool) : Nat :=
  let damped := if first then delta / 700 else delta / 2
  damp (damped + damped / handled) 0

structure Progress where
  delta : Nat
  bias : Nat
  handled : Nat
  first : Bool
  output : List Char

/-- Goes over the text once for the code point `point`. -/
def insertPoint (point : Nat) (p : Progress) (c : Char) : Progress :=
  if c.toNat < point then { p with delta := p.delta + 1 }
  else if c.toNat = point then
    { delta := 0
      bias := adapt p.delta (p.handled + 1) p.first
      handled := p.handled + 1
      first := false
      output := p.output ++ digits p.delta 36 p.bias }
  else p

/-- The code points are taken in ascending order; `least` is the least one not taken yet. -/
def insertPoints (text : List Char) : List Nat → Nat → Progress → Progress
  | [], _, p => p
  | point :: rest, least, p =>
    let start := { p with delta := p.delta + (point - least) * (p.handled + 1) }
    let done := text.foldl (insertPoint point) start
    insertPoints text rest (point + 1) { done with delta := done.delta + 1 }

def insertSorted (n : Nat) : List Nat → List Nat
  | [] => [n]
  | m :: rest =>
    if n < m then n :: m :: rest
    else if n = m then m :: rest
    else m :: insertSorted n rest

/-- A label in ASCII: its ASCII characters, then where the others go. -/
def encode (label : List Char) : List Char :=
  let basic := label.filter fun c => c.toNat < 0x80
  let points := label.foldl
    (fun found c => if c.toNat < 0x80 then found else insertSorted c.toNat found) []
  let head := if basic.isEmpty then [] else basic ++ ['-']
  (insertPoints label points 0x80 ⟨0, 72, basic.length, true, head⟩).output

def digitValue? (c : Char) : Option Nat :=
  if 'a' ≤ c ∧ c ≤ 'z' then some (c.toNat - 0x61)
  else if '0' ≤ c ∧ c ≤ '9' then some (c.toNat - 0x30 + 26)
  else none

/-- The greatest number that may occur. -/
def maxNumber : Nat := 0xFFFFFFFF

/-- Adds the number at the head to `sum`, and gives what follows it. -/
def readNumber? (bias : Nat) : List Char → Nat → Nat → Nat → Option (Nat × List Char)
  | [], _, _, _ => none
  | c :: rest, sum, weight, place => do
    let n ← digitValue? c
    let sum := sum + n * weight
    let t := threshold place bias
    if maxNumber < sum then none
    else if n < t then some (sum, rest)
    else if maxNumber < weight * (36 - t) then none
    else readNumber? bias rest sum (weight * (36 - t)) (place + 36)

/-- Puts in the characters that the numbers stand for. Each number takes a digit at least, so the
length of the text is enough fuel. -/
def insertChars? : Nat → List Char → Nat → Nat → Nat → List Char → Option (List Char)
  | _, [], _, _, _, output => some output
  | 0, _, _, _, _, _ => none
  | fuel + 1, digits, position, point, bias, output => do
    let (sum, rest) ← readNumber? bias digits position 1 36
    let count := output.length + 1
    let point := point + sum / count
    if 0x110000 ≤ point ∨ (0xD800 ≤ point ∧ point < 0xE000) then none
    else
      let place := sum % count
      insertChars? fuel rest (place + 1) point (adapt (sum - position) count (position = 0))
        (output.take place ++ Char.ofNat point :: output.drop place)

/-- The label that an ASCII text stands for: its characters before the last hyphen, and the others
put in where the digits after it say. -/
def decode? (cs : List Char) : Option (List Char) :=
  let reversed := cs.reverse
  let digits := (reversed.takeWhile (· ≠ '-')).reverse
  let basic := ((reversed.dropWhile (· ≠ '-')).drop 1).reverse
  if cs.head? = some '-' ∧ basic.isEmpty then none
  else insertChars? cs.length digits 0 0x80 72 basic

end OutboxRelay.Punycode
