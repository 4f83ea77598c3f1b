import OutboxRelay.Outbox.Status
import OutboxRelay.Instant.Rfc3339
import OutboxRelay.Json.Basic

namespace OutboxRelay

def defaultMaxAttempts : Int := 5

/-- An event on its way to the subscribers. -/
structure OutboxEntry where
  id : Uuid
  aggregateType : String
  aggregateId : String
  eventType : String
  payload : Json
  status : OutboxStatus
  idempotencyKey : String
  attempts : Int
  maxAttempts : Int
  nextAttemptAt : Option Instant
  deliveredAt : Option Instant
  errorMessage : String
  createdAt : Instant
  updatedAt : Instant
  /-- Whether the payload comes out of the table again. If not, nobody ever gets the entry. -/
  isReadable : Bool := true
  deriving Repr, BEq

namespace OutboxEntry

def isDue (entry : OutboxEntry) (now : Instant) : Bool :=
  entry.status = .pending && entry.nextAttemptAt.any fun due => due.le now

end OutboxEntry

/-- An event to be put into the outbox. -/
structure NewOutboxEvent where
  aggregateType : String
  aggregateId : String
  eventType : String
  payload : Option Json := none
  idempotencyKey : Option String := none
  deriving Repr, BEq

namespace NewOutboxEvent

/-- An explicit key, unless it is empty; else the aggregate. -/
def resolvedKey (event : NewOutboxEvent) : String :=
  match event.idempotencyKey with
  | some key => if key.isEmpty then event.aggregateType ++ ":" ++ event.aggregateId else key
  | none => event.aggregateType ++ ":" ++ event.aggregateId

/-- Nothing and null stand for the empty object. -/
def resolvedPayload (event : NewOutboxEvent) : Json :=
  match event.payload with
  | none => Json.empty
  | some .null => Json.empty
  | some v => v

end NewOutboxEvent

/-- What an attempt makes of an entry. It is written only if the entry is still pending with the
number of attempts that the attempt started from. -/
structure EntryTransition where
  id : Uuid
  previousAttempts : Int
  attempts : Int
  status : OutboxStatus
  nextAttemptAt : Option Instant
  deliveredAt : Option Instant
  errorMessage : String
  deriving Repr, DecidableEq

/-- The counters of one delivery sweep. -/
structure DeliveryStats where
  processed : Nat
  delivered : Nat
  failed : Nat
  skipped : Nat
  deferred : Nat
  remaining : Int
  deriving Repr, DecidableEq

/-- The counters of one cleanup. -/
structure CleanupStats where
  deleted : Nat
  remaining : Nat
  deriving Repr, DecidableEq

structure StatusCounts where
  pending : Int
  delivered : Int
  failed : Int
  deriving Repr, DecidableEq

end OutboxRelay
