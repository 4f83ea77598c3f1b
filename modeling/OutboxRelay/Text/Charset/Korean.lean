import OutboxRelay.Text.Charset.KsX1001
import OutboxRelay.Text.Charset.OctetDecoder

namespace OutboxRelay

/-- The syllables that have no place in KS X 1001, in order. -/
def otherSyllables : List Nat :=
  withoutSorted ((List.range 11172).map (0xAC00 + ·))
    (((ksX1001.rows.drop 15).take 25).flatMap fun row => row.toList.map Char.toNat)

/-- The place of an octet among letters and the upper half. -/
def letterPlace? (b : Nat) : Option Nat :=
  if isWithin 0x41 0x5A b then some (b - 0x41)
  else if isWithin 0x61 0x7A b then some (b - 0x61 + 26)
  else if isWithin 0x81 0xFE b then some (b - 0x81 + 52)
  else none

/-- The plane of KS X 1001 with the other syllables above it and to its left. -/
def koreanPair? (lead b : Nat) : Option Char :=
  if 0xA1 ≤ lead ∧ 0xA1 ≤ b then
    if b ≤ 0xFE then ksX1001.char? ((lead - 0xA1) * 94 + (b - 0xA1)) else none
  else
    let start := if lead < 0xA1 then (lead - 0x81) * 178 else 5696 + (lead - 0xA1) * 84
    (letterPlace? b).bind fun place => (otherSyllables[start + place]?).map Char.ofNat

def eucKr : OctetDecoder (Option Nat) :=
  .ofPairs (isWithin 0x81 0xFE) asciiOctet? fun lead b => (koreanPair? lead b).toList

end OutboxRelay
