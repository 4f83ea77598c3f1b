import OutboxRelay.Json.Column
import OutboxRelay.Store.Outbox

namespace OutboxRelay

/-- What asks for a delivery sweep once new entries are there. -/
inductive Trigger
  | silent
  | notifying
  | broken
  deriving DecidableEq, Repr

def Trigger.schedule : Trigger → Except Error Unit
  | .silent => .ok ()
  | .notifying => .ok ()
  | .broken => .error (.internal "trigger failed")

/-- What happens after a commit: a sweep is asked for, or a callback of the caller runs. -/
inductive Hook
  | schedule (trigger : Trigger)
  | callback
  deriving DecidableEq, Repr

/-- A transaction: the tables as it sees them, and the hooks to run if it commits. Once a statement
has failed no other one is taken, up to the end of the transaction or the beginning of a savepoint
that is still open. -/
structure UnitOfWork where
  tables : Tables
  hooks : List Hook := []
  serial : Nat
  isAborted : Bool := false

/-- The hooks that ran, and the errors that they left in the log. -/
structure Journal where
  ran : List Hook := []
  logged : List Error := []

/-- The committed tables, and the number of rows ever made. -/
structure Store extends Journal where
  tables : Tables := {}
  serial : Nat := 0

/-- A step of a unit of work. After an error the unit goes on from what the step left. -/
abbrev Work (α : Type) := ExceptT Error (StateM UnitOfWork) α

namespace UnitOfWork

def pendingHooks (u : UnitOfWork) : Nat := u.hooks.length

def text (u : UnitOfWork) : String :=
  "UnitOfWork \x7b pending_hooks: " ++ toString u.pendingHooks ++ " \x7d"

end UnitOfWork

namespace Journal

/-- A trigger that fails is logged and nothing more. -/
def runHook (j : Journal) (hook : Hook) : Journal :=
  match hook with
  | .schedule trigger =>
    match trigger.schedule with
    | .ok () => { j with ran := j.ran ++ [hook] }
    | .error e => { ran := j.ran ++ [hook], logged := j.logged ++ [e] }
  | .callback => { j with ran := j.ran ++ [hook] }

def runHooks (j : Journal) : List Hook → Journal
  | [] => j
  | hook :: rest => (j.runHook hook).runHooks rest

end Journal

namespace Store

def begin (s : Store) : UnitOfWork := { tables := s.tables, serial := s.serial }

/-- Makes the writes of a unit visible and runs its hooks in order. -/
def commit (s : Store) (u : UnitOfWork) : Store :=
  { s.toJournal.runHooks u.hooks with tables := u.tables, serial := u.serial }

/-- Discards the writes and hooks of a unit. Identifiers that it took are not used again. -/
def rollback (s : Store) (u : UnitOfWork) : Store :=
  { s with serial := u.serial }

/-- Runs a unit of work: commits if it succeeds, rolls back otherwise. -/
def atomic {α : Type} (work : Work α) (s : Store) : Except Error α × Store :=
  match work.run s.begin with
  | (.ok a, u) => (.ok a, s.commit u)
  | (.error e, u) => (.error e, s.rollback u)

end Store

namespace Work

def tables : Work Tables := do return (← get).tables

def setTables (t : Tables) : Work Unit := modify fun u => { u with tables := t }

def freshId : Work Uuid :=
  modifyGet fun u => (Uuid.ofSerial u.serial, { u with serial := u.serial + 1 })

def onCommit (hook : Hook) : Work Unit :=
  modify fun u => { u with hooks := u.hooks ++ [hook] }

/-- A statement on the tables. If it fails they are as before, and the transaction takes no other
statement. -/
def statement {α : Type} (operation : Tables → Except Error (α × Tables)) : Work α := fun u =>
  if u.isAborted then (.error (.database .aborted), u)
  else
    match operation u.tables with
    | .ok (a, t) => (.ok a, { u with tables := t })
    | .error e => (.error e, { u with isAborted := true })

/-- Runs a part of a unit that is undone if it fails, or if a statement of it has failed. Then the
unit is as before, identifiers apart. -/
def savepoint {α : Type} (work : Work α) : Work α := fun u =>
  if u.isAborted then (.error (.database .aborted), u)
  else
    match work.run u with
    | (.ok a, v) =>
      if v.isAborted then (.error (.database .aborted), { u with serial := v.serial }) else (.ok a, v)
    | (.error e, v) => (.error e, { u with serial := v.serial })

/-- A statement on the rows of an outbox table. -/
def onOutbox {α : Type} (table : OutboxTable)
    (operation : OutboxRows → Except Error (α × OutboxRows)) : Work α :=
  statement fun t => do
    let (a, rows) ← operation (t.outbox table)
    return (a, t.setOutbox table rows)

end Work

/-- Where events go: the table, what is triggered, and how often delivery is attempted. -/
structure OutboxSettings where
  table : OutboxTable := .core
  trigger : Trigger := .silent
  maxAttempts : Int := defaultMaxAttempts
  deriving DecidableEq, Repr

namespace OutboxSettings

/-- At least one attempt. -/
def withMaxAttempts (settings : OutboxSettings) (count : Int) : OutboxSettings :=
  { settings with maxAttempts := max count 1 }

/-- The entry of a new event, due at once. Its payload is what is read back from the table. -/
def newEntry (settings : OutboxSettings) (id : Uuid) (event : NewOutboxEvent) (now : Instant) :
    OutboxEntry :=
  { id
    aggregateType := event.aggregateType
    aggregateId := event.aggregateId
    eventType := event.eventType
    payload := event.resolvedPayload.readBack?.getD event.resolvedPayload
    status := .pending
    idempotencyKey := event.resolvedKey
    attempts := 0
    maxAttempts := settings.maxAttempts
    nextAttemptAt := some now.stored
    deliveredAt := none
    errorMessage := ""
    createdAt := now.stored
    updatedAt := now.stored
    isReadable := event.resolvedPayload.readBack?.isSome }

def insertEntry (event : NewOutboxEvent) (entry : OutboxEntry) (rows : OutboxRows) :
    Except Error (OutboxEntry × OutboxRows) :=
  if event.resolvedPayload.hasNull then .error (.database .nullCharacter)
  else
  match OutboxRows.insert rows entry with
  | .ok rows => .ok (entry, rows)
  | .error (.database .unique) => .error (.duplicateEvent event.eventType event.resolvedKey)
  | .error e => .error e

/-- Puts an event into the outbox and asks for a sweep after the commit. A refused event leaves
the unit of work usable. The entry is there before it is read, and stays if it cannot be. -/
def emit (settings : OutboxSettings) (now : Instant) (event : NewOutboxEvent) :
    Work OutboxEntry := do
  let id ← Work.freshId
  let entry ← Work.savepoint
    (Work.onOutbox settings.table (insertEntry event (settings.newEntry id event now)))
  if !entry.isReadable then throw (.database .unreadable)
  Work.onCommit (.schedule settings.trigger)
  return entry

/-- Puts several events into the outbox, all or none. -/
def emitAll (settings : OutboxSettings) (now : Instant) (events : List NewOutboxEvent) :
    Work (List OutboxEntry) :=
  events.mapM (settings.emit now)

end OutboxSettings

end OutboxRelay
