import OutboxRelay.Column
import OutboxRelay.Error

namespace OutboxRelay

def defaultChunkSize : Int := 5242880

/-- The formula for the number of chunks. What becomes of a result is left to the operations that
it is made of. -/
def partCountBy {m : Type → Type} [Monad m] (quotient remainder : Int → Int → m Int)
    (word : Int → m Int) (total size : Int) : m Int := do
  let quotient ← quotient total size
  let rest ← remainder total size
  word (quotient + if rest = 0 then 0 else 1)

/-- How many chunks carry `total` octets. An empty file needs none. -/
def totalParts (total : Int) (chunk : Option Int) : Except Error Int :=
  let size := chunk.getD defaultChunkSize
  if size ≤ 0 then
    .error (.invalidInput ("chunk size must be positive, got " ++ toString size))
  else if total < 0 then
    .error (.invalidInput ("total size must not be negative, got " ++ toString total))
  else
    let parts : Int := Id.run (partCountBy (fun a b => a / b) (fun a b => a % b) id total size)
    if parts ≤ maxInt32 then .ok parts
    else .error (.invalidInput ("upload needs too many parts: " ++ toString parts))

/-- Whether a text is a digest of sixty-four hexadecimal digits. -/
def isSha256Hex (s : String) : Bool :=
  let cs := s.toList
  cs.length == 64 && cs.all fun c => (hexValue? c).isSome

end OutboxRelay
