namespace OutboxRelay

/-- What stands in a decoded text for octets that are no character. -/
def replacementChar : Char := '\uFFFD'

/-- A character of which some octets are read: the octets still owed, the range of the next one
and the bits so far. -/
structure Utf8Pending where
  owed : Nat
  low : UInt8
  high : UInt8
  bits : Nat

/-- The state after an octet that begins a character, with the characters it settles. -/
def beginUtf8 (b : UInt8) : List Char × Option Utf8Pending :=
  let n := b.toNat
  if n < 0x80 then ([Char.ofNat n], none)
  else if 0xC2 ≤ n ∧ n ≤ 0xDF then ([], some ⟨1, 0x80, 0xBF, n - 0xC0⟩)
  else if n = 0xE0 then ([], some ⟨2, 0xA0, 0xBF, 0⟩)
  else if n = 0xED then ([], some ⟨2, 0x80, 0x9F, 0xD⟩)
  else if 0xE1 ≤ n ∧ n ≤ 0xEF then ([], some ⟨2, 0x80, 0xBF, n - 0xE0⟩)
  else if n = 0xF0 then ([], some ⟨3, 0x90, 0xBF, 0⟩)
  else if n = 0xF4 then ([], some ⟨3, 0x80, 0x8F, 4⟩)
  else if 0xF1 ≤ n ∧ n ≤ 0xF3 then ([], some ⟨3, 0x80, 0xBF, n - 0xF0⟩)
  else ([replacementChar], none)

/-- Each longest run of octets that could begin a character but does not finish it becomes one
replacement character. -/
def decodeUtf8From : Option Utf8Pending → List UInt8 → List Char
  | none, [] => []
  | some _, [] => [replacementChar]
  | none, b :: rest =>
    let (chars, next) := beginUtf8 b
    chars ++ decodeUtf8From next rest
  | some p, b :: rest =>
    if p.low ≤ b ∧ b ≤ p.high then
      let bits := p.bits * 64 + (b.toNat - 0x80)
      if p.owed ≤ 1 then Char.ofNat bits :: decodeUtf8From none rest
      else decodeUtf8From (some ⟨p.owed - 1, 0x80, 0xBF, bits⟩) rest
    else
      let (chars, next) := beginUtf8 b
      replacementChar :: (chars ++ decodeUtf8From next rest)

def decodeUtf8 (octets : List UInt8) : List Char :=
  decodeUtf8From none octets

/-- The text that octets stand for, if all of them belong to characters. -/
def utf8Text? (octets : List UInt8) : Option (List Char) :=
  let cs := decodeUtf8 octets
  if cs.flatMap String.utf8EncodeChar = octets then some cs else none

end OutboxRelay
