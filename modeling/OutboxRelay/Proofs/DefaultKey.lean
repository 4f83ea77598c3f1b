import OutboxRelay.Proofs.FailedCalls
import OutboxRelay.Proofs.UnitCourse

namespace OutboxRelay

/-- Two texts joined by a colon can also be cut at a colon inside the first or the second. -/
theorem append_colon_eq_iff {a b c d : List Char} :
    a ++ ':' :: b = c ++ ':' :: d ↔ a = c ∧ b = d ∨
      (∃ w, a = c ++ ':' :: w ∧ d = w ++ ':' :: b) ∨ ∃ w, c = a ++ ':' :: w ∧ b = w ++ ':' :: d := by
  constructor
  · intro same
    -- the first parts are equal, or the longer one goes on with a colon of its own
    rcases List.append_eq_append_iff.mp same with ⟨between, isC, rest⟩ | ⟨between, isA, rest⟩
    · cases between with
      | nil => exact .inl ⟨by simpa using isC.symm, by simpa using rest⟩
      | cons first w =>
        obtain ⟨rfl, isB⟩ := List.cons.inj rest
        exact .inr (.inr ⟨w, isC, isB⟩)
    · cases between with
      | nil => exact .inl ⟨by simpa using isA, by simpa using rest.symm⟩
      | cons first w =>
        obtain ⟨rfl, isD⟩ := List.cons.inj rest
        exact .inr (.inl ⟨w, isA, isD⟩)
  · rintro (⟨rfl, rfl⟩ | ⟨w, rfl, rfl⟩ | ⟨w, rfl, rfl⟩)
    · rfl
    · rw [List.append_assoc, List.cons_append]
    · rw [List.append_assoc, List.cons_append]

theorem toList_append_colon (s t : String) : (s ++ ":" ++ t).toList = s.toList ++ ':' :: t.toList := by
  rw [String.toList_append, String.toList_append, List.append_assoc]
  rfl

/-- What an event is about. -/
structure Aggregate where
  kind : String
  id : String
  deriving DecidableEq

namespace Aggregate
variable {a b : Aggregate}

/-- How an aggregate is written where its event has no key of its own. -/
def reference (a : Aggregate) : String := a.kind ++ ":" ++ a.id

/-- The kind of the one goes on, after a colon, with what the id of the other begins with. -/
def Extends (a b : Aggregate) : Prop :=
  ∃ w : String, a.kind = b.kind ++ ":" ++ w ∧ b.id = w ++ ":" ++ a.id

/-- The aggregates that are written alike. -/
def Alike (a b : Aggregate) : Prop := a = b ∨ a.Extends b ∨ b.Extends a

theorem extends_iff : a.Extends b ↔
    ∃ w, a.kind.toList = b.kind.toList ++ ':' :: w ∧ b.id.toList = w ++ ':' :: a.id.toList := by
  constructor
  · rintro ⟨w, kind, id⟩
    exact ⟨w.toList, by rw [kind, toList_append_colon], by rw [id, toList_append_colon]⟩
  · rintro ⟨w, kind, id⟩
    refine ⟨String.ofList w, String.toList_inj.mp ?_, String.toList_inj.mp ?_⟩
    · rw [kind, toList_append_colon, String.toList_ofList]
    · rw [id, toList_append_colon, String.toList_ofList]

theorem reference_eq_iff : a.reference = b.reference ↔ a.Alike b := by
  obtain ⟨kind, id⟩ := a
  obtain ⟨kind', id'⟩ := b
  rw [← String.toList_inj, reference, reference, toList_append_colon, toList_append_colon,
    append_colon_eq_iff, Alike, extends_iff, extends_iff, String.toList_inj, String.toList_inj,
    mk.injEq]

theorem Extends.colon (longer : a.Extends b) : ':' ∈ a.kind.toList := by
  obtain ⟨w, kind, _⟩ := extends_iff.mp longer
  rw [kind]
  exact List.mem_append_right _ List.mem_cons_self

/-- Among kinds without a colon, each aggregate is written in its own way. -/
theorem alike_iff_of_plain (plain : ':' ∉ a.kind.toList) (plain' : ':' ∉ b.kind.toList) :
    a.Alike b ↔ a = b := by
  constructor
  · rintro (same | longer | longer)
    · exact same
    · exact absurd longer.colon plain
    · exact absurd longer.colon plain'
  · exact .inl

end Aggregate

namespace NewOutboxEvent

def aggregate (event : NewOutboxEvent) : Aggregate := ⟨event.aggregateType, event.aggregateId⟩

/-- The event has no key of its own; an empty one counts as none. -/
def IsUnkeyed (event : NewOutboxEvent) : Prop :=
  event.idempotencyKey = none ∨ event.idempotencyKey = some ""

theorem IsUnkeyed.resolvedKey {event : NewOutboxEvent} (unkeyed : event.IsUnkeyed) :
    event.resolvedKey = event.aggregate.reference := by
  rcases unkeyed with none | empty
  · rw [NewOutboxEvent.resolvedKey, none]
    rfl
  · rw [NewOutboxEvent.resolvedKey, empty]
    rfl

theorem IsUnkeyed.resolvedKey_eq_iff {event other : NewOutboxEvent} (unkeyed : event.IsUnkeyed)
    (unkeyed' : other.IsUnkeyed) :
    event.resolvedKey = other.resolvedKey ↔ event.aggregate.Alike other.aggregate := by
  rw [unkeyed.resolvedKey, unkeyed'.resolvedKey, Aggregate.reference_eq_iff]

end NewOutboxEvent

namespace OutboxEntry

def aggregate (entry : OutboxEntry) : Aggregate := ⟨entry.aggregateType, entry.aggregateId⟩

/-- The entry went in under the key that an event has by default. -/
def IsDefaultKeyed (entry : OutboxEntry) : Prop := entry.idempotencyKey = entry.aggregate.reference

instance : DecidablePred IsDefaultKeyed := fun entry =>
  inferInstanceAs (Decidable (entry.idempotencyKey = entry.aggregate.reference))

theorem IsDefaultKeyed.of_fixedPart {a b : OutboxEntry} (isDefault : a.IsDefaultKeyed)
    (same : a.fixedPart = b.fixedPart) : b.IsDefaultKeyed := by
  obtain ⟨_, kind, id, _, _, key, _⟩ := fixedPart_eq_iff.mp same
  rw [IsDefaultKeyed, aggregate, ← key, ← kind, ← id]
  exact isDefault

end OutboxEntry

theorem OutboxSettings.newEntry_accepted_iff {settings : OutboxSettings} {event : NewOutboxEvent}
    {id : Uuid} {now : Instant} :
    event.resolvedPayload.hasNull = false ∧ (settings.newEntry id event now).fault? = none ↔
      settings.Storable ∧ event.Storable := by
  constructor
  · rintro ⟨payload, accepted⟩
    obtain ⟨⟨texts, _⟩, _, range, lawful⟩ := OutboxEntry.fault?_eq_none_iff.mp accepted
    obtain ⟨_, positive, _⟩ := OutboxEntry.isLawful_iff.mp lawful
    rw [fitsInt32, Bool.and_eq_true, decide_eq_true_eq, decide_eq_true_eq] at range
    exact ⟨⟨positive, range.2⟩, texts, payload⟩
  · rintro ⟨limit, storable⟩
    exact ⟨storable.payload, newEntry_accepted limit storable id now⟩

namespace Store
variable {run : List Transaction} {table : OutboxTable}

/-- Each row was emitted: what calls never change of it is as it was then. -/
theorem exists_emitted_of_mem {row : OutboxEntry} (member : row ∈ (({} : Store).after run).rows table) :
    ∃ entry ∈ ({} : Store).emitted table run, entry.fixedPart = row.fixedPart := by
  have balance := ({} : Store).after_balance run (after_consistent [] table)
  have empty : ({} : Store).rows table = [] := by cases table <;> rfl
  rw [empty, List.nil_append] at balance
  have inParts := balance.subset (List.mem_map_of_mem (List.mem_append_left _ member))
  exact List.mem_map.mp inParts

/-- What the key of an event without one of its own stands for, and when it makes the event a duplicate
in the store `s`. -/
structure DefaultKey (s : Store) (db : Database) (now : Instant) (event : NewOutboxEvent) : Prop where
  shared : ∀ other : NewOutboxEvent, other.IsUnkeyed →
    (event.resolvedKey = other.resolvedKey ↔ event.aggregate.Alike other.aggregate)
  plain : ∀ other : NewOutboxEvent, other.IsUnkeyed → ':' ∉ event.aggregateType.toList →
    ':' ∉ other.aggregateType.toList →
    (event.resolvedKey = other.resolvedKey ↔ event.aggregate = other.aggregate)
  refused : ∀ type key,
    (s.perform ⟨db, now, .emit event⟩).1 = .error (.duplicateEvent type key) ↔
      (type = event.eventType ∧ key = event.resolvedKey) ∧ (db.outbox.Storable ∧ event.Storable) ∧
        ∃ row ∈ s.rows db.outbox.table, row.eventType = event.eventType ∧
          event.aggregate.Alike row.aggregate
  plainRefused : ':' ∉ event.aggregateType.toList →
    (∀ row ∈ s.rows db.outbox.table, row.eventType = event.eventType →
      ':' ∉ row.aggregateType.toList) → ∀ type key,
    (s.perform ⟨db, now, .emit event⟩).1 = .error (.duplicateEvent type key) →
      ∃ row ∈ s.rows db.outbox.table, row.eventType = event.eventType ∧
        row.aggregate = event.aggregate

section
variable {s : Store} {db : Database} {event : NewOutboxEvent}

theorem emit_eq_duplicate_iff (now : Instant)
    (unused : ∀ row ∈ s.rows db.outbox.table, row.id ≠ Uuid.ofSerial s.serial) (type key : String) :
    (s.perform ⟨db, now, .emit event⟩).1 = .error (.duplicateEvent type key) ↔
      (type = event.eventType ∧ key = event.resolvedKey) ∧ (db.outbox.Storable ∧ event.Storable) ∧
        ∃ row ∈ s.rows db.outbox.table, row.eventType = event.eventType ∧
          row.idempotencyKey = event.resolvedKey := by
  rcases emitted : (db.outbox.emit now event).run s.begin with ⟨result, u⟩
  rw [perform_eq_error_iff_of_run rfl emitted, OutboxSettings.emit_eq_duplicate_iff rfl emitted,
    OutboxSettings.insertEntry_eq_duplicate_iff, OutboxRows.insert_eq_unique_iff,
    ← and_assoc (b := _ = none), OutboxSettings.newEntry_accepted_iff]
  refine and_congr_right fun _ => and_congr_right fun _ => exists_congr fun row =>
    and_congr_right fun member => or_iff_left (unused row member)

/-- Among rows under default keys, the duplicates are about aggregates that are written alike. -/
theorem emit_eq_duplicate_iff_of_defaultKeyed (now : Instant) (unkeyed : event.IsUnkeyed)
    (unused : ∀ row ∈ s.rows db.outbox.table, row.id ≠ Uuid.ofSerial s.serial)
    (keyed : ∀ row ∈ s.rows db.outbox.table, row.eventType = event.eventType → row.IsDefaultKeyed)
    (type key : String) :
    (s.perform ⟨db, now, .emit event⟩).1 = .error (.duplicateEvent type key) ↔
      (type = event.eventType ∧ key = event.resolvedKey) ∧ (db.outbox.Storable ∧ event.Storable) ∧
        ∃ row ∈ s.rows db.outbox.table, row.eventType = event.eventType ∧
          event.aggregate.Alike row.aggregate := by
  rw [emit_eq_duplicate_iff now unused]
  refine and_congr_right fun _ => and_congr_right fun _ => exists_congr fun row =>
    and_congr_right fun member => and_congr_right fun sameType => ?_
  rw [keyed row member sameType, unkeyed.resolvedKey, eq_comm, Aggregate.reference_eq_iff]

end

/-- Whatever has been emitted, as long as the events of this type went in under default keys. -/
theorem default_keys (run : List Transaction) (db : Database) (now : Instant)
    {event : NewOutboxEvent} (unkeyed : event.IsUnkeyed)
    (others : ∀ entry ∈ ({} : Store).emitted db.outbox.table run,
      entry.eventType = event.eventType → entry.IsDefaultKeyed)
    (room : (({} : Store).after run).serial < 2 ^ 128) :
    (({} : Store).after run).DefaultKey db now event := by
  have keyed : ∀ row ∈ (({} : Store).after run).rows db.outbox.table,
      row.eventType = event.eventType → row.IsDefaultKeyed := by
    intro row member sameType
    obtain ⟨entry, emitted, same⟩ := exists_emitted_of_mem member
    obtain ⟨_, _, _, typeThen, _⟩ := OutboxEntry.fixedPart_eq_iff.mp same
    exact (others entry emitted (typeThen.trans sameType)).of_fixedPart same
  have fresh : (({} : Store).after run).begin.Fresh 1 := after_fresh run room
  have refused :=
    emit_eq_duplicate_iff_of_defaultKeyed now unkeyed (fresh.unused db.outbox.table) keyed
  refine ⟨fun other unkeyed' => unkeyed.resolvedKey_eq_iff unkeyed', ?_, refused, ?_⟩
  · intro other unkeyed' plain plain'
    exact (unkeyed.resolvedKey_eq_iff unkeyed').trans (Aggregate.alike_iff_of_plain plain plain')
  · intro plain plainRows type key duplicate
    obtain ⟨_, _, row, member, sameType, alike⟩ := (refused type key).mp duplicate
    have same := (Aggregate.alike_iff_of_plain plain (plainRows row member sameType)).mp alike
    exact ⟨row, member, sameType, same.symm⟩

/-- The theorem about an event that comes after one of the same key, and one of another. -/
theorem default_keys_extended :
    let time : Instant := ⟨1767225600, 0⟩
    let run : List Transaction := [⟨{}, time, .emit ⟨"invoice", "2026:7", "stored", none, none⟩⟩,
      ⟨{}, time, .emit ⟨"invoice", "7", "stored", none, some ""⟩⟩]
    let event : NewOutboxEvent := ⟨"invoice:2026", "7", "stored", none, none⟩
    event.IsUnkeyed ∧
      (∀ entry ∈ ({} : Store).emitted .core run, entry.eventType = "stored" → entry.IsDefaultKeyed) ∧
      (({} : Store).after run).serial < 2 ^ 128 ∧
      ((({} : Store).after run).perform ⟨{}, time, .emit event⟩).1 =
        .error (.duplicateEvent "stored" "invoice:2026:7") := by
  intro time run event
  have others : ∀ entry ∈ ({} : Store).emitted .core run,
      entry.eventType = "stored" → entry.IsDefaultKeyed := by decide +kernel
  have room : (({} : Store).after run).serial < 2 ^ 128 := by decide +kernel
  have unkeyed : event.IsUnkeyed := .inl rfl
  have law := default_keys run {} time unkeyed others room
  obtain ⟨row, member, type, isFirst⟩ : ∃ row ∈ (({} : Store).after run).rows .core,
      row.eventType = "stored" ∧ row.aggregate = ⟨"invoice", "2026:7"⟩ := by decide +kernel
  have alike : event.aggregate.Alike row.aggregate := by
    rw [isFirst]
    exact .inr (.inl ⟨"2026", rfl, rfl⟩)
  exact ⟨unkeyed, others, room, (law.refused _ _).mpr
    ⟨⟨rfl, rfl⟩, ⟨⟨by decide, by decide⟩, by decide +kernel, rfl⟩, row, member, type, alike⟩⟩

/-- Default keys do not identify the aggregate: the second event, about another aggregate, is refused
as a duplicate of the first. -/
theorem default_key_collides :
    let time : Instant := ⟨1767225600, 0⟩
    let first : NewOutboxEvent := ⟨"a:b", "c", "stored", none, none⟩
    let second : NewOutboxEvent := ⟨"a", "b:c", "stored", none, none⟩
    let s := ({} : Store).after [⟨{}, time, .emit first⟩]
    first.IsUnkeyed ∧ second.IsUnkeyed ∧ first.resolvedKey = second.resolvedKey ∧
      first.aggregate ≠ second.aggregate ∧ (s.rows .core).map (·.aggregate) = [first.aggregate] ∧
      (s.perform ⟨{}, time, .emit second⟩).1 = .error (.duplicateEvent "stored" "a:b:c") :=
  ⟨.inl rfl, .inl rfl, rfl, by decide, rfl, rfl⟩

end Store

end OutboxRelay
