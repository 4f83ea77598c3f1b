import OutboxRelay.Text.Utf8

namespace OutboxRelay

/-- Reads one octet after the other. A step gives the characters that it settles. -/
structure OctetDecoder (σ : Type) where
  start : σ
  step : σ → Nat → List Char × σ
  finish : σ → List Char

namespace OctetDecoder

variable {σ : Type}

def decodeFrom (d : OctetDecoder σ) : σ → List UInt8 → List Char
  | s, [] => d.finish s
  | s, b :: rest =>
    let (chars, next) := d.step s b.toNat
    chars ++ d.decodeFrom next rest

def decode (d : OctetDecoder σ) (octets : List UInt8) : List Char :=
  d.decodeFrom d.start octets

/-- A character set in which a character takes one octet or two. Octets without a character are a
replacement character; after a leading octet an ASCII character stands for itself as well. -/
def ofPairs (isLead : Nat → Bool) (single : Nat → Option Char) (pair : Nat → Nat → List Char) :
    OctetDecoder (Option Nat) where
  start := none
  step
    | none, b => if isLead b then ([], some b) else ([(single b).getD replacementChar], none)
    | some lead, b =>
      match pair lead b with
      | [] => (replacementChar :: (if b < 0x80 then [Char.ofNat b] else []), none)
      | chars => (chars, none)
  finish
    | none => []
    | some _ => [replacementChar]

end OctetDecoder

def isWithin (low high n : Nat) : Bool := low ≤ n && n ≤ high

def asciiOctet? (b : Nat) : Option Char := if b < 0x80 then some (Char.ofNat b) else none

/-- The first of two ascending lists without the members of the second. -/
def withoutSorted : List Nat → List Nat → List Nat
  | [], _ => []
  | n :: ns, [] => n :: ns
  | n :: ns, m :: ms => if n = m then withoutSorted ns ms else n :: withoutSorted ns (m :: ms)

end OutboxRelay
