import OutboxRelay.Period

namespace OutboxRelay

/-- A point in time: seconds since the beginning of 1970 and nanoseconds within the second. From
`10 ^ 9` nanoseconds on it lies in a leap second that follows the second. -/
structure Instant where
  secs : Int
  nanos : Nat
  deriving DecidableEq, Repr

namespace Instant

def le (a b : Instant) : Bool :=
  a.secs < b.secs || (a.secs == b.secs && a.nanos ≤ b.nanos)

def lt (a b : Instant) : Bool := !b.le a

/-- Nanoseconds since the beginning of 1970, a leap second laid over the next one. -/
def toNanos (t : Instant) : Int := t.secs * 1000000000 + t.nanos

def ofNanos (n : Int) : Instant := ⟨n / 1000000000, (n % 1000000000).toNat⟩

/-- The first second of the year -262143. -/
def minSecs : Int := -8334601228800

/-- The last second of the year 262142. -/
def maxSecs : Int := 8210266876799

def inRange (t : Instant) : Bool :=
  minSecs ≤ t.secs && t.secs ≤ maxSecs

/-- The sum, if it is in range. A step that leaves a leap second counts it as the second before
when it goes forward and as the second after when it goes back. -/
def add? (t : Instant) (p : Period) : Option Instant :=
  let steps := p.nanos.tdiv 1000000000
  let fraction := p.nanos.tmod 1000000000
  let sum :=
    if t.nanos < nanosPerSecond then ofNanos (t.toNanos + p.nanos)
    else if 0 < steps ∨ (0 < fraction ∧ 2000000000 ≤ (t.nanos : Int) + fraction) then
      ofNanos (t.toNanos - 1000000000 + p.nanos)
    else if steps < 0 then ofNanos (t.toNanos + p.nanos)
    else ⟨t.secs, (t.nanos + fraction).toNat⟩
  if sum.inRange then some sum else none

def sub? (t : Instant) (p : Period) : Option Instant := t.add? ⟨-p.nanos⟩

/-- The beginning of the year 2000, from which stored times count. -/
def storageEpochNanos : Int := 946684800 * 1000000000

/-- A time as a table keeps it: whole microseconds, cut off toward the beginning of the year
2000. -/
def stored (t : Instant) : Instant :=
  ofNanos ((t.toNanos - storageEpochNanos).tdiv 1000 * 1000 + storageEpochNanos)

/-- The first time that a table knows. -/
def firstStored : Instant := ⟨-210866803200, 0⟩

/-- Whether a time can be handed to the tables. -/
def isStorable (t : Instant) : Bool := firstStored.le t.stored

/-- Whether a time can be handed to the tables when their own clock, which shows a time that they
know, is at `clock`. -/
def isKnownAt (t clock : Instant) : Bool := t.isStorable || clock.stored.le t.stored

end Instant

end OutboxRelay
