import OutboxRelay.Binary64.Basic
import OutboxRelay.Column
import OutboxRelay.Outbox.Entry

namespace OutboxRelay

/-- How much of a delay may be added to it at random. -/
inductive JitterRatio
  | notANumber
  | infinite (negative : Bool)
  | finite (x : Binary64)
  deriving DecidableEq, Repr

/-- The number nearest to 0.1. -/
def defaultJitterRatio : JitterRatio := .finite ⟨false, 7205759403792794, -56⟩

/-- Delays that double up to a greatest one, with some jitter. -/
structure RetryPolicy where
  baseDelaySecs : Int := 60
  maxDelaySecs : Int := 3600
  jitterRatio : JitterRatio := defaultJitterRatio
  deriving DecidableEq, Repr

def clampInt64 (n : Int) : Int := max minInt64 (min maxInt64 n)

namespace RetryPolicy

/-- The formula for the delay. What becomes of a result is left to `word32` and `word64`, except
that the product is cut to a word. -/
def baseDelayBy {m : Type → Type} [Monad m] (policy : RetryPolicy) (word32 word64 : Int → m Int)
    (attempts : Int) : m Int := do
  let doublings ← word32 (max attempts 1 - 1)
  let factor ← word64 (Nat.pow 2 (min doublings 32).toNat)
  return min (clampInt64 (policy.baseDelaySecs * factor)) policy.maxDelaySecs

/-- The delay before an entry that was attempted `attempts` times is due again. -/
def baseDelay (policy : RetryPolicy) (attempts : Int) : Int :=
  Id.run (policy.baseDelayBy pure pure attempts)

/-- The greatest jitter of a delay: their product, rounded down to whole seconds. What is no
number counts as nothing and what is too great as the greatest number. -/
def maxJitter (policy : RetryPolicy) (delay : Int) : Int :=
  match policy.jitterRatio with
  | .notANumber => 0
  | .infinite negative =>
    if delay = 0 then 0
    else if (delay < 0) = negative then maxInt64 else minInt64
  | .finite ratio =>
    match (Binary64.ofInt delay).mul? ratio with
    | some product => clampInt64 product.floor
    | none => if (delay < 0) = ratio.negative then maxInt64 else minInt64

/-- The delay with the jitter that `draw` picks from zero up to its argument. -/
def delay (policy : RetryPolicy) (draw : Int → Int) (attempts : Int) :
    Except ScheduleFault Period :=
  let base := policy.baseDelay attempts
  let bound := policy.maxJitter base
  if bound < 0 then .error .emptyJitterRange
  else
    let jitter := max 0 (min bound (draw bound))
    match Period.ofSeconds? (base + jitter) with
    | some period => .ok period
    | none => .error .delayOutOfRange

/-- What an attempt makes of an entry: delivered without an error, failed with the last attempt it
is allowed, pending again otherwise. -/
def transition (policy : RetryPolicy) (draw : Int → Int) (entry : OutboxEntry)
    (error : Option String) (now : Instant) : Except ScheduleFault EntryTransition :=
  let attempts := entry.attempts + 1
  match error with
  | none => .ok {
      id := entry.id
      previousAttempts := entry.attempts
      attempts
      status := .delivered
      nextAttemptAt := none
      deliveredAt := some now
      errorMessage := "" }
  | some message =>
    if entry.maxAttempts ≤ attempts then .ok {
        id := entry.id
        previousAttempts := entry.attempts
        attempts
        status := .failed
        nextAttemptAt := none
        deliveredAt := none
        errorMessage := message }
    else
      match policy.delay draw attempts with
      | .error fault => .error fault
      | .ok period =>
        match now.add? period with
        | none => .error .timeOutOfRange
        | some next => .ok {
            id := entry.id
            previousAttempts := entry.attempts
            attempts
            status := .pending
            nextAttemptAt := some next
            deliveredAt := none
            errorMessage := message }

end RetryPolicy

end OutboxRelay
