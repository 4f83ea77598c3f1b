import OutboxRelay.Instant.Basic
import OutboxRelay.Instant.Calendar
import OutboxRelay.Text.Blank

namespace OutboxRelay.Instant

/-- Four digits; a year before 0 or after 9999 has a sign, which counts for the width. -/
def yearText (year : Int) : List Char :=
  if 0 ≤ year ∧ year ≤ 9999 then padDigits 4 year.toNat
  else (if year < 0 then '-' else '+') :: padDigits 4 year.natAbs

/-- No fraction, or three, six or nine digits, the fewest that lose nothing. -/
def fractionText (nanos : Nat) : List Char :=
  if nanos = 0 then []
  else if nanos % 1000000 = 0 then '.' :: fixedDigits 3 (nanos / 1000000)
  else if nanos % 1000 = 0 then '.' :: fixedDigits 6 (nanos / 1000)
  else '.' :: fixedDigits 9 nanos

/-- The time in UTC. A leap second is written as second 60. -/
def chars (t : Instant) : List Char :=
  let day := CivilDay.ofDays (t.secs / 86400)
  let second := (t.secs % 86400).toNat
  let leap := t.nanos / nanosPerSecond
  yearText day.year ++ '-' :: (fixedDigits 2 day.month ++ '-' :: (fixedDigits 2 day.day ++ 'T' ::
    (fixedDigits 2 (second / 3600) ++ ':' :: (fixedDigits 2 (second / 60 % 60) ++ ':' ::
      (fixedDigits 2 (second % 60 + leap) ++
        (fractionText (t.nanos % nanosPerSecond) ++ ['Z']))))))

def text (t : Instant) : String := String.ofList t.chars

/-- Up to `width` digits, at least one, and what follows them. -/
def readNumber? (width : Nat) (cs : List Char) : Option (Nat × List Char) :=
  let digits := (cs.take width).takeWhile Char.isDigit
  if digits.isEmpty then none
  else some (Nat.ofDigitChars 10 digits 0, cs.drop digits.length)

/-- Blanks, then a number of one or two digits. -/
def readField? (cs : List Char) : Option (Nat × List Char) :=
  readNumber? 2 (skipBlanks cs)

/-- With a sign a year has any number of digits, without one it has at most four. -/
def readYear? (cs : List Char) : Option (Int × List Char) :=
  match skipBlanks cs with
  | '-' :: rest => (readNumber? rest.length rest).map fun (n, rest) => (-(n : Int), rest)
  | '+' :: rest => (readNumber? rest.length rest).map fun (n, rest) => ((n : Int), rest)
  | rest => (readNumber? 4 rest).map fun (n, rest) => ((n : Int), rest)

/-- Blanks and the separator `mark`. -/
def readMark? (mark : Char) (cs : List Char) : Option (List Char) :=
  match skipBlanks cs with
  | c :: rest => if c = mark then some rest else none
  | [] => none

/-- The nanoseconds of an optional fraction; digits beyond the ninth are dropped. -/
def readFraction? : List Char → Option (Nat × List Char)
  | '.' :: rest =>
    let digits := (rest.takeWhile Char.isDigit).take 9
    if digits.isEmpty then none
    else some (Nat.ofDigitChars 10 digits 0 * Nat.pow 10 (9 - digits.length),
      rest.dropWhile Char.isDigit)
  | rest => some (0, rest)

def readDigitPair? : List Char → Option (Nat × List Char)
  | a :: b :: rest => if a.isDigit ∧ b.isDigit then
      some (10 * (a.toNat - 48) + (b.toNat - 48), rest)
    else none
  | _ => none

/-- Hours and minutes after the sign of an offset, as seconds. -/
def readOffsetSize? (cs : List Char) : Option (Nat × List Char) := do
  let (hours, cs) ← readDigitPair? cs
  let (minutes, cs) ← readDigitPair? (cs.dropWhile fun c => c == ':' || isBlank c)
  if 60 ≤ minutes ∨ 24 ≤ hours then none
  return (hours * 3600 + minutes * 60, cs)

/-- The offset from UTC in seconds, with a sign or as a name of UTC. -/
def readOffset? (cs : List Char) : Option (Int × List Char) :=
  match skipBlanks cs with
  | '+' :: rest => (readOffsetSize? rest).map fun (n, rest) => ((n : Int), rest)
  | c :: rest =>
    if c = '-' ∨ c = '\u2212' then
      (readOffsetSize? rest).map fun (n, rest) => (-(n : Int), rest)
    else if c = 'Z' ∨ c = 'z' then some (0, rest)
    else if (c :: rest.take 2).map Char.toUpper = ['U', 'T', 'C'] then some (0, rest.drop 2)
    else none
  | [] => none

/-- The year of an instant in its own offset has to be in range, and so does the instant. -/
def assemble? (day : CivilDay) (hour minute second nanos : Nat) (offset : Int) :
    Option Instant :=
  if day.isValid ∧ hour < 24 ∧ minute < 60 ∧ second ≤ 60 then
    let leap := second / 60
    let wall : Instant :=
      ⟨day.toDays * 86400 + hour * 3600 + minute * 60 + (second - leap : Nat),
        nanos + leap * nanosPerSecond⟩
    let time : Instant := ⟨wall.secs - offset, wall.nanos⟩
    if wall.inRange ∧ time.inRange then some time else none
  else none

/-- Date, separator, time, optional fraction and offset. Blanks may stand before each number and
mark, but not before the separator of date and time. -/
def ofChars? (cs : List Char) : Option Instant := do
  let (year, cs) ← readYear? cs
  let cs ← readMark? '-' cs
  let (month, cs) ← readField? cs
  let cs ← readMark? '-' cs
  let (day, cs) ← readField? cs
  let cs ← match cs with
    | c :: rest => if c = 'T' ∨ c = 't' ∨ c = ' ' then some rest else none
    | [] => none
  let (hour, cs) ← readField? cs
  let cs ← readMark? ':' cs
  let (minute, cs) ← readField? cs
  let cs ← readMark? ':' cs
  let (second, cs) ← readField? cs
  let (nanos, cs) ← readFraction? cs
  let (offset, cs) ← readOffset? cs
  if (skipBlanks cs).isEmpty then
    assemble? ⟨year, month, day⟩ hour minute second nanos offset
  else none

def ofText? (s : String) : Option Instant := ofChars? s.toList

end OutboxRelay.Instant
