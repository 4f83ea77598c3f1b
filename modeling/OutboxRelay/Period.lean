import OutboxRelay.Text.Digits

namespace OutboxRelay

def nanosPerSecond : Nat := 1000000000

/-- A length of time that may be negative. -/
structure Period where
  nanos : Int
  deriving DecidableEq, Repr

namespace Period

/-- Periods have at most `2 ^ 63 - 1` milliseconds in either direction. -/
def limitNanos : Int := 9223372036854775807 * 1000000

def ofSeconds (secs : Int) : Period := ⟨secs * 1000000000⟩

/-- The least and greatest whole seconds of a period. -/
def limitSeconds : Int := 9223372036854775

def ofSeconds? (secs : Int) : Option Period :=
  if -limitSeconds ≤ secs ∧ secs ≤ limitSeconds then some (ofSeconds secs) else none

def ofHours? (hours : Int) : Option Period := ofSeconds? (hours * 3600)

/-- Nine digits of a fraction of a second without the zeros at the end. -/
def fractionDigits (nanos : Nat) : List Char :=
  ((fixedDigits 9 nanos).reverse.dropWhile (· = '0')).reverse

/-- Seconds with as many decimals as needed; nothing is `P0D`. -/
def text (p : Period) : String :=
  let size := p.nanos.natAbs
  let sign := if p.nanos < 0 then ['-', 'P'] else ['P']
  let body :=
    if size = 0 then ['0', 'D']
    else
      let whole := Nat.toDigits 10 (size / nanosPerSecond)
      let rest := size % nanosPerSecond
      'T' :: (whole ++ (if rest = 0 then ['S'] else '.' :: (fractionDigits rest ++ ['S'])))
  String.ofList (sign ++ body)

end Period

/-- A length of time that is not negative. -/
structure Span where
  nanos : Nat
  deriving DecidableEq, Repr

namespace Span

/-- Whole seconds have 64 bits. -/
def limitNanos : Nat := 0x10000000000000000 * nanosPerSecond - 1

def ofSeconds (secs : Nat) : Span := ⟨secs * nanosPerSecond⟩

def ofMillis (millis : Nat) : Span := ⟨millis * 1000000⟩

def secs (s : Span) : Nat := s.nanos / nanosPerSecond

def subsecNanos (s : Span) : Nat := s.nanos % nanosPerSecond

/-- The sum, or the longest span if the sum is longer. -/
def saturatingAdd (a b : Span) : Span := ⟨min (a.nanos + b.nanos) limitNanos⟩

def max (a b : Span) : Span := if a.nanos ≤ b.nanos then b else a

def toPeriod? (s : Span) : Option Period :=
  if (s.nanos : Int) ≤ Period.limitNanos then some ⟨s.nanos⟩ else none

end Span

end OutboxRelay
