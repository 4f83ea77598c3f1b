import OutboxRelay.Column
import OutboxRelay.Json.Decoder
import OutboxRelay.Outbox.Entry

namespace OutboxRelay

namespace Decoder

def int32 : Decoder Int := int minInt32 maxInt32

def int64 : Decoder Int := int minInt64 maxInt64

def nat64 : Decoder Nat := nat 18446744073709551615

def outboxStatus : Decoder OutboxStatus := named OutboxStatus.ofName?

def outboxTable : Decoder OutboxTable :=
  named fun s => OutboxTable.all.find? fun table => table.label = s

def outboxEntry : Decoder OutboxEntry := fun tree depth => do
  let fields ← record? ["id", "aggregate_type", "aggregate_id", "event_type", "payload", "status",
    "idempotency_key", "attempts", "max_attempts", "next_attempt_at", "delivered_at",
    "error_message", "created_at", "updated_at"] 0 tree depth
  return {
    id := ← field "id" uuid fields depth
    aggregateType := ← field "aggregate_type" text fields depth
    aggregateId := ← field "aggregate_id" text fields depth
    eventType := ← field "event_type" text fields depth
    payload := ← field "payload" json fields depth
    status := ← field "status" outboxStatus fields depth
    idempotencyKey := ← field "idempotency_key" text fields depth
    attempts := ← field "attempts" int32 fields depth
    maxAttempts := ← field "max_attempts" int32 fields depth
    nextAttemptAt := ← fieldOr "next_attempt_at" (option instant) none fields depth
    deliveredAt := ← fieldOr "delivered_at" (option instant) none fields depth
    errorMessage := ← field "error_message" text fields depth
    createdAt := ← field "created_at" instant fields depth
    updatedAt := ← field "updated_at" instant fields depth }

def deliveryStats : Decoder DeliveryStats := fun tree depth => do
  let fields ← record? ["processed", "delivered", "failed", "skipped", "deferred", "remaining"] 0
    tree depth
  return {
    processed := ← field "processed" nat64 fields depth
    delivered := ← field "delivered" nat64 fields depth
    failed := ← field "failed" nat64 fields depth
    skipped := ← field "skipped" nat64 fields depth
    deferred := ← field "deferred" nat64 fields depth
    remaining := ← field "remaining" int64 fields depth }

def cleanupStats : Decoder CleanupStats := fun tree depth => do
  let fields ← record? ["deleted", "remaining"] 0 tree depth
  return {
    deleted := ← field "deleted" nat64 fields depth
    remaining := ← field "remaining" nat64 fields depth }

def statusCounts : Decoder StatusCounts := fun tree depth => do
  let fields ← record? ["pending", "delivered", "failed"] 0 tree depth
  return {
    pending := ← field "pending" int64 fields depth
    delivered := ← field "delivered" int64 fields depth
    failed := ← field "failed" int64 fields depth }

end Decoder

def OutboxStatus.toJson (s : OutboxStatus) : Json := .str s.name

def OutboxTable.toJson (t : OutboxTable) : Json := .str t.label

def OutboxEntry.toJson (e : OutboxEntry) : Json :=
  Json.object [
    ("id", Json.ofUuid e.id),
    ("aggregate_type", .str e.aggregateType),
    ("aggregate_id", .str e.aggregateId),
    ("event_type", .str e.eventType),
    ("payload", e.payload),
    ("status", e.status.toJson),
    ("idempotency_key", .str e.idempotencyKey),
    ("attempts", .int e.attempts),
    ("max_attempts", .int e.maxAttempts),
    ("next_attempt_at", Json.ofOption Json.ofInstant e.nextAttemptAt),
    ("delivered_at", Json.ofOption Json.ofInstant e.deliveredAt),
    ("error_message", .str e.errorMessage),
    ("created_at", Json.ofInstant e.createdAt),
    ("updated_at", Json.ofInstant e.updatedAt)]

def EntryTransition.toJson (t : EntryTransition) : Json :=
  Json.object [
    ("id", Json.ofUuid t.id),
    ("previous_attempts", .int t.previousAttempts),
    ("attempts", .int t.attempts),
    ("status", t.status.toJson),
    ("next_attempt_at", Json.ofOption Json.ofInstant t.nextAttemptAt),
    ("delivered_at", Json.ofOption Json.ofInstant t.deliveredAt),
    ("error_message", .str t.errorMessage)]

def DeliveryStats.toJson (s : DeliveryStats) : Json :=
  Json.object [
    ("processed", Json.ofNat s.processed),
    ("delivered", Json.ofNat s.delivered),
    ("failed", Json.ofNat s.failed),
    ("skipped", Json.ofNat s.skipped),
    ("deferred", Json.ofNat s.deferred),
    ("remaining", .int s.remaining)]

def CleanupStats.toJson (s : CleanupStats) : Json :=
  Json.object [("deleted", Json.ofNat s.deleted), ("remaining", Json.ofNat s.remaining)]

def StatusCounts.toJson (c : StatusCounts) : Json :=
  Json.object [("pending", .int c.pending), ("delivered", .int c.delivered),
    ("failed", .int c.failed)]

instance : Wire OutboxStatus := ⟨Decoder.outboxStatus, OutboxStatus.toJson⟩

instance : Wire OutboxTable := ⟨Decoder.outboxTable, OutboxTable.toJson⟩

instance : Wire OutboxEntry := ⟨Decoder.outboxEntry, OutboxEntry.toJson⟩

instance : Wire DeliveryStats := ⟨Decoder.deliveryStats, DeliveryStats.toJson⟩

instance : Wire CleanupStats := ⟨Decoder.cleanupStats, CleanupStats.toJson⟩

instance : Wire StatusCounts := ⟨Decoder.statusCounts, StatusCounts.toJson⟩

end OutboxRelay
