import OutboxRelay.Store.Database
import OutboxRelay.Sweep.Retention

namespace OutboxRelay

/-- Where sweeps run: a store, a clock, the time since the site began, and what else there is,
such as the subscribers. -/
structure Site (τ : Type) where
  store : Store := {}
  clock : Instant
  uptime : Span := ⟨0⟩
  others : τ

namespace Site

variable {τ α : Type}

/-- Runs operations on the store. -/
def access (operations : Access α) : Sweep (Site τ) α := fun s =>
  let (result, store) := operations.run s.store
  (result, { s with store })

/-- Runs operations on the store that take the time of the clock. -/
def accessNow (operations : Instant → Access α) : Sweep (Site τ) α := do
  access (operations (← get).clock)

/-- A span of time passes. -/
def wait (s : Site τ) (span : Span) : Site τ :=
  { s with
    clock := (s.clock.add? ⟨span.nanos⟩).getD s.clock
    uptime := ⟨s.uptime.nanos + span.nanos⟩ }

/-- The services of a delivery sweep over an outbox table of the store. The sweep began at the time
`begun`. -/
def deliveryServices (table : OutboxTable) (begun : Span) (draw : Int → Int)
    (deliver : WebhookEndpoint → OutboxEntry → Sweep (Site τ) DeliveryResult) :
    DeliveryServices (Site τ) :=
  { now := return (← get).clock
    stopwatch := return ⟨(← get).uptime.nanos - begun.nanos⟩
    fetchDue := fun now limit lease => accessNow (table.fetchDue now limit lease)
    listActive := return EndpointRows.listActive (← get).store.tables.endpoints
    deliver
    applyTransitions := fun transitions => accessNow (table.applyTransitions transitions)
    release := fun entries => accessNow (table.release entries)
    pendingCount := return OutboxRows.pendingCount ((← get).store.tables.outbox table)
    draw := return draw }

/-- The services of a retention sweep over an outbox table of the store. -/
def retentionServices (table : OutboxTable) : RetentionServices (Site τ) :=
  { now := return (← get).clock
    cleanup := fun cutoff limit => access (table.cleanup cutoff limit) }

/-- The services of a retention sweep over the uploads of the store. -/
def uploadRetentionServices : RetentionServices (Site τ) :=
  { now := return (← get).clock
    cleanup := fun cutoff limit => access (UploadSettings.cleanupExpiredFiles cutoff limit) }

end Site

end OutboxRelay
