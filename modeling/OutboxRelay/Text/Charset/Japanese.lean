import OutboxRelay.Text.Charset.Jis0208
import OutboxRelay.Text.Charset.Jis0212
import OutboxRelay.Text.Charset.OctetDecoder

namespace OutboxRelay

/-- The katakana of half width, from the octet 0xA1 on. -/
def narrowKatakana? (b : Nat) : Option Char :=
  if isWithin 0xA1 0xDF b then some (Char.ofNat (0xFF61 + (b - 0xA1))) else none

/-- Two octets of Shift JIS. Some numbers are for private use. -/
def shiftJisPair? (lead b : Nat) : Option Char :=
  if isWithin 0x40 0x7E b ∨ isWithin 0x80 0xFC b then
    let n := (lead - (if lead < 0xA0 then 0x81 else 0xC1)) * 188 +
      (b - (if b < 0x7F then 0x40 else 0x41))
    if isWithin 8836 10715 n then some (Char.ofNat (0xE000 + (n - 8836))) else jis0208.char? n
  else none

def shiftJis : OctetDecoder (Option Nat) :=
  .ofPairs (fun b => isWithin 0x81 0x9F b || isWithin 0xE0 0xFC b)
    (fun b => if b ≤ 0x80 then some (Char.ofNat b) else narrowKatakana? b)
    fun lead b => (shiftJisPair? lead b).toList

/-- A cell of a plane of 94 rows, its coordinates counted from `base`. -/
def planeCell? (plane : CharTable) (base lead b : Nat) : Option Char :=
  if isWithin base (base + 93) lead ∧ isWithin base (base + 93) b then
    plane.char? ((lead - base) * 94 + (b - base))
  else none

/-- What of a character of EUC-JP is read: nothing, its first octet, or two octets of three. -/
inductive EucJpState
  | ready
  | lead (b : Nat)
  | supplementary (b : Nat)

def eucJpLead? (lead b : Nat) : Option Char :=
  if lead = 0x8E ∧ isWithin 0xA1 0xDF b then narrowKatakana? b else planeCell? jis0208 0xA1 lead b

/-- A character, or a replacement character and with it an ASCII octet. -/
def charOrReplacement (b : Nat) : Option Char → List Char
  | some c => [c]
  | none => replacementChar :: (asciiOctet? b).toList

def eucJp : OctetDecoder EucJpState where
  start := .ready
  step
    | .ready, b =>
      if b = 0x8E ∨ b = 0x8F ∨ isWithin 0xA1 0xFE b then ([], .lead b)
      else ([(asciiOctet? b).getD replacementChar], .ready)
    | .lead lead, b =>
      if lead = 0x8F ∧ isWithin 0xA1 0xFE b then ([], .supplementary b)
      else (charOrReplacement b (eucJpLead? lead b), .ready)
    | .supplementary lead, b => (charOrReplacement b (planeCell? jis0212 0xA1 lead b), .ready)
  finish
    | .ready => []
    | _ => [replacementChar]

/-- The sets between which escape sequences switch. -/
inductive Iso2022Set
  | ascii
  | roman
  | katakana
  | kanji
  deriving DecidableEq

/-- What waits for the next octet: the first octet of a kanji, an escape, or an escape and the
octet after it. -/
inductive Iso2022Pending
  | nothing
  | lead (b : Nat)
  | escape
  | escapeLead (b : Nat)

/-- The set in use, what waits, and whether nothing was read since a switch. -/
structure Iso2022State where
  set : Iso2022Set
  pending : Iso2022Pending
  switched : Bool

namespace Iso2022Set

def ofEscape? (lead b : Nat) : Option Iso2022Set :=
  if lead = 0x28 then
    if b = 0x42 then some ascii
    else if b = 0x4A then some roman
    else if b = 0x49 then some katakana
    else none
  else if b = 0x40 ∨ b = 0x42 then some kanji
  else none

/-- The character of an octet alone; a kanji takes two. -/
def char? : Iso2022Set → Nat → Option Char
  | kanji, _ => none
  | katakana, b => if isWithin 0x21 0x5F b then narrowKatakana? (b + 0x80) else none
  | set, b =>
    if b = 0x0E ∨ b = 0x0F then none
    else if set = roman ∧ b = 0x5C then some '¥'
    else if set = roman ∧ b = 0x7E then some '‾'
    else asciiOctet? b

end Iso2022Set

namespace Iso2022State

/-- An octet in the set in use, after the first one of a kanji if there is one. -/
def read (s : Iso2022State) (b : Nat) : List Char × Iso2022State :=
  let done : Iso2022State := ⟨s.set, .nothing, false⟩
  match s.pending with
  | .lead lead =>
    if b = 0x1B then ([replacementChar], { s with pending := .escape })
    else ([(planeCell? jis0208 0x21 lead b).getD replacementChar], { s with pending := .nothing })
  | _ =>
    if b = 0x1B then ([], { s with pending := .escape })
    else if s.set = .kanji ∧ isWithin 0x21 0x7E b then ([], { done with pending := .lead b })
    else ([(s.set.char? b).getD replacementChar], done)

/-- A switch that follows another one without a character between is no good text. -/
def step (s : Iso2022State) (b : Nat) : List Char × Iso2022State :=
  let done : Iso2022State := ⟨s.set, .nothing, false⟩
  match s.pending with
  | .escape =>
    if b = 0x24 ∨ b = 0x28 then ([], { s with pending := .escapeLead b })
    else
      let (chars, next) := done.read b
      (replacementChar :: chars, next)
  | .escapeLead lead =>
    match Iso2022Set.ofEscape? lead b with
    | some set => (if s.switched then [replacementChar] else [], ⟨set, .nothing, true⟩)
    | none =>
      let (first, middle) := done.read lead
      let (second, next) := middle.read b
      (replacementChar :: (first ++ second), next)
  | _ => s.read b

def finish (s : Iso2022State) : List Char :=
  match s.pending with
  | .nothing => []
  | .escapeLead lead =>
    let (chars, next) := Iso2022State.read ⟨s.set, .nothing, false⟩ lead
    match next.pending with
    | .nothing => replacementChar :: chars
    | _ => replacementChar :: (chars ++ [replacementChar])
  | _ => [replacementChar]

end Iso2022State

def iso2022Jp : OctetDecoder Iso2022State where
  start := ⟨.ascii, .nothing, false⟩
  step := Iso2022State.step
  finish := Iso2022State.finish

end OutboxRelay
