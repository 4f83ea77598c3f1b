import OutboxRelay.Config.Delivery
import OutboxRelay.Endpoint.Basic
import OutboxRelay.Retry

namespace OutboxRelay

/-- A step of a sweep in a world `σ`. After an error the world goes on from what the step left. -/
abbrev Sweep (σ : Type) (α : Type) := ExceptT Error (StateM σ) α

/-- What a delivery sweep needs of the world: a clock, a stopwatch that runs since the sweep began,
the outbox, the endpoints, the way to the subscribers, and chance. -/
structure DeliveryServices (σ : Type) where
  now : Sweep σ Instant
  stopwatch : Sweep σ Span
  fetchDue : Instant → Int → Period → Sweep σ (List OutboxEntry)
  listActive : Sweep σ (List WebhookEndpoint)
  deliver : WebhookEndpoint → OutboxEntry → Sweep σ DeliveryResult
  applyTransitions : List EntryTransition → Sweep σ (List Uuid)
  release : List OutboxEntry → Sweep σ Nat
  pendingCount : Sweep σ Int
  draw : Sweep σ (Int → Int)

/-- A sweep that delivers due entries, with its settings. -/
structure DeliverySweep where
  config : DeliveryConfig := {}
  policy : RetryPolicy := {}
  deriving DecidableEq, Repr

namespace DeliverySweep

variable {σ : Type}

/-- Sends an entry to the endpoints in order: the address and the error of each that fails. -/
def failures (services : DeliveryServices σ) (entry : OutboxEntry) :
    List WebhookEndpoint → Sweep σ (List String)
  | [] => return []
  | endpoint :: rest => do
    let result ← services.deliver endpoint entry
    let more ← failures services entry rest
    return if result.ok then more else (endpoint.url ++ ": " ++ result.error) :: more

/-- Sends an entry to the endpoints that subscribe to it: nothing if all of them took it, else
their errors in one text. -/
def deliverEntry (services : DeliveryServices σ) (endpoints : List WebhookEndpoint)
    (entry : OutboxEntry) : Sweep σ (Option String) := do
  let errors ← failures services entry (endpoints.filter (·.subscribesTo entry.eventType))
  return if errors.isEmpty then none else some (String.intercalate "; " errors)

/-- Attempts entries in order. None is begun once the soft limit has passed. -/
def attempt (sweep : DeliverySweep) (services : DeliveryServices σ)
    (endpoints : List WebhookEndpoint) : List OutboxEntry → Sweep σ (List EntryTransition)
  | [] => return []
  | entry :: rest => do
    let elapsed ← services.stopwatch
    if sweep.config.softLimit.nanos ≤ elapsed.nanos then return []
    else
      let error ← deliverEntry services endpoints entry
      let now ← services.now
      let draw ← services.draw
      match sweep.policy.transition draw entry error now with
      | .error fault => throw (.unschedulable fault)
      | .ok transition =>
        let more ← sweep.attempt services endpoints rest
        return transition :: more

/-- Gives entries back that were not attempted. If that fails they stay hidden until the lease
ends. -/
def giveBack (services : DeliveryServices σ) (entries : List OutboxEntry) : Sweep σ Unit := fun s =>
  if entries.isEmpty then (.ok (), s)
  else
    let (_, s) := (services.release entries).run s
    (.ok (), s)

/-- The counters for the transitions that were written. -/
def stats (transitions : List EntryTransition) (applied : List Uuid) (deferred : Nat)
    (remaining : Int) : DeliveryStats :=
  let landed := transitions.filter fun t => applied.contains t.id
  { processed := landed.length
    delivered := landed.countP (·.status = .delivered)
    failed := landed.countP (·.status = .failed)
    skipped := transitions.length - landed.length
    deferred
    remaining }

/-- Without the endpoints nothing is attempted and all entries go back. -/
def endpointsFor (services : DeliveryServices σ) (entries : List OutboxEntry) :
    Sweep σ (List WebhookEndpoint) := fun s =>
  match services.listActive.run s with
  | (.ok endpoints, s) => (.ok endpoints, s)
  | (.error e, s) =>
    let (_, s) := (giveBack services entries).run s
    (.error e, s)

/-- The lease as a period, if it can be one. -/
def lease (sweep : DeliverySweep) : Except Error Period :=
  match sweep.config.effectiveLease.toPeriod? with
  | some period => .ok period
  | none => .error (.config
      "claim lease out of range: Source duration value is out of range for the target type")

/-- One sweep: fetches due entries, attempts them one after the other, writes what came of it, and
gives back those that were not attempted. -/
def run (sweep : DeliverySweep) (services : DeliveryServices σ) : Sweep σ DeliveryStats := do
  let lease ← sweep.lease
  let now ← services.now
  let entries ← services.fetchDue now sweep.config.batchSize lease
  if entries.isEmpty then return stats [] [] 0 (← services.pendingCount)
  else
    let endpoints ← endpointsFor services entries
    let transitions ← sweep.attempt services endpoints entries
    let applied ← services.applyTransitions transitions
    let deferred := entries.drop transitions.length
    giveBack services deferred
    let remaining ← services.pendingCount
    return stats transitions applied deferred.length remaining

end DeliverySweep

end OutboxRelay
