import OutboxRelay.Text.Composition
import OutboxRelay.Url.Domain.Mapping
import OutboxRelay.Url.Domain.Property
import OutboxRelay.Url.Punycode

namespace OutboxRelay.Url

def isAscii (c : Char) : Bool := c.toNat < 0x80

/-- Characters that may not stand in a name. -/
def isForbiddenInDomain (c : Char) : Bool :=
  c.toNat ≤ 0x20 || c.toNat == 0x7F || "#/:<>?@[\\]^|%".toList.contains c

def asciiPrefix : List Char := ['x', 'n', '-', '-']

/-- A label as it is read. One with the prefix of an ASCII form stands for what it encodes, which
has to be in its plainest form already. -/
def readLabel? (label : List Char) : Option (List Char) :=
  if asciiPrefix.isPrefixOf label then do
    let encoded := label.drop 4
    if encoded.isEmpty ∨ encoded.getLast? = some '-' ∨ 2000 < encoded.length then none
    let decoded ← Punycode.decode? encoded
    if decoded.all fun c => mappedChars? c == some [c] && !(isForbiddenInDomain c) then
      if normalize decoded = decoded then some decoded else none
    else none
  else some label

/-- Whether marks only part a place from a letter that joins; the letters nearest to the place come
first. -/
def meetsJoining (joins : Char → Bool) (cs : List Char) : Bool :=
  (cs.dropWhile isJoinTransparent).head?.any joins

/-- A joiner follows a sign that kills a vowel; the one that keeps letters apart may also stand
between letters that would join. `before` is the text before the place, last character first. -/
def hasGoodJoiners : List Char → List Char → Bool
  | _, [] => true
  | before, c :: rest =>
    let isGood :=
      if before.head?.any fun d => combiningClass d == 9 then true
      else c.toNat != 0x200D && meetsJoining joinsNext before && meetsJoining joinsPrevious rest
    (!(c.toNat == 0x200C || c.toNat == 0x200D) || isGood) && hasGoodJoiners (c :: before) rest

/-- A label does not begin with a mark. -/
def isGoodLabel (label : List Char) : Bool :=
  !(label.head?.any (inRanges markRanges)) && hasGoodJoiners [] label &&
    (label.all isAscii || label.length ≤ 1000)

/-- Whether a name has characters that are written from right to left. -/
def isMixedDirection (name : List (List Char)) : Bool :=
  name.any (·.any fun c => direction c = .rightToLeft || direction c = .arabicNumber)

/-- In a name with text from right to left each label has one direction, which its first letter
gives. -/
def hasGoodDirection (label : List Char) : Bool :=
  let directions := label.map direction
  match directions, (directions.reverse.dropWhile (· = .mark)).head? with
  | .leftToRight :: _, some last =>
    directions.all (fun d => d ∈ [.leftToRight, .europeanNumber, .neutral, .mark]) &&
      (last = .leftToRight || last = .europeanNumber)
  | .rightToLeft :: _, some last =>
    directions.all (· ≠ .leftToRight) &&
      last ∈ [.rightToLeft, .europeanNumber, .arabicNumber] &&
      !(directions.contains .europeanNumber && directions.contains .arabicNumber)
  | [], _ => true
  | _, _ => false

def labelToAscii (label : List Char) : List Char :=
  if label.all isAscii then label else asciiPrefix ++ Punycode.encode label

/-- The ASCII form of a name, which is in lower case. -/
def domainToAscii? (cs : List Char) : Option (List Char) := do
  let plain := normalize (← cs.mapM mappedChars?).flatten
  if plain.any isForbiddenInDomain then none
  let name ← (splitOn '.' plain).mapM readLabel?
  if name.all isGoodLabel && (!isMixedDirection name || name.all hasGoodDirection) then
    return joinWith ['.'] (name.map labelToAscii)
  else none

end OutboxRelay.Url
