import OutboxRelay.Text.Digits

namespace OutboxRelay

/-- An identifier of 128 bits, the most significant first. -/
structure Uuid where
  bits : BitVec 128
  deriving DecidableEq, Repr

namespace Uuid

def lt (a b : Uuid) : Bool := a.bits.toNat < b.bits.toNat

def nil : Uuid := ⟨0⟩

def ofNat (n : Nat) : Uuid := ⟨BitVec.ofNat 128 n⟩

/-- Groups of 8, 4, 4, 4 and 12 digits with hyphens between them. -/
def hyphenate (digits : List Char) : List Char :=
  digits.take 8 ++ '-' :: ((digits.drop 8).take 4 ++ '-' :: ((digits.drop 12).take 4 ++ '-' ::
    ((digits.drop 16).take 4 ++ '-' :: digits.drop 20)))

def chars (u : Uuid) : List Char :=
  hyphenate (fixedHex 32 u.bits.toNat)

def text (u : Uuid) : String := String.ofList u.chars

/-- The digits without hyphens. -/
def plainText (u : Uuid) : String := String.ofList (fixedHex 32 u.bits.toNat)

/-- Thirty-two digits, all together or hyphenated. -/
def ofDigits? (cs : List Char) : Option Uuid :=
  let digits := if cs.length = 36 then cs.filter (· ≠ '-') else cs
  if digits.length = 32 ∧ (cs.length = 32 ∨ cs = hyphenate digits) then
    (hexadecimal? digits).map ofNat
  else none

/-- Whether `cs` begins with `urn:uuid:`, in any case. -/
def isUrn (cs : List Char) : Bool :=
  (cs.take 9).map Char.toLower == "urn:uuid:".toList

/-- Digits of either case, plain or hyphenated; hyphenated ones also in braces or after
`urn:uuid:`. -/
def ofText? (s : String) : Option Uuid :=
  let cs := s.toList
  if cs.length = 38 ∧ cs.head? = some '{' ∧ cs.getLast? = some '}' then
    ofDigits? ((cs.drop 1).take 36)
  else if cs.length = 45 ∧ isUrn cs then ofDigits? (cs.drop 9)
  else ofDigits? cs

/-- The identifier of the row that is created as number `serial`. It sorts after the rows created
before, and by its leading digits after every identifier that begins with zeros. -/
def ofSerial (serial : Nat) : Uuid :=
  ofNat (0x019c0000000070008000000000000000 + serial)

end Uuid

end OutboxRelay
