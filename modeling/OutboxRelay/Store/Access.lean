import OutboxRelay.Store.UnitOfWork

namespace OutboxRelay

/-- Operations through a handle on the store. Each statement and each transaction takes effect for
good when it ends; after an error the store is as those before it have left it. -/
abbrev Access (α : Type) := ExceptT Error (StateM Store) α

/-- Where statements and transactions run. -/
class MonadStore (m : Type → Type) where
  freshId : m Uuid
  /-- Runs a single statement. -/
  statement {α : Type} : Work α → m α
  /-- Runs a transaction: it is committed if its body succeeds and dropped if it fails. -/
  transaction {α : Type} : Work α → m α
  /-- Runs a transaction that its body may give up: then it is dropped, and that is no error. -/
  transaction? {α : Type} : Work (Option α) → m (Option α)

namespace Store

/-- Runs a transaction that is committed only if its body comes to something. -/
def atomic? {α : Type} (work : Work (Option α)) (s : Store) : Except Error (Option α) × Store :=
  match work.run s.begin with
  | (.ok (some a), u) => (.ok (some a), s.commit u)
  | (.ok none, u) => (.ok none, s.rollback u)
  | (.error e, u) => (.error e, s.rollback u)

end Store

/-- A statement outside of a transaction is one by itself. -/
instance : MonadStore Access where
  freshId := fun s => (.ok (Uuid.ofSerial s.serial), { s with serial := s.serial + 1 })
  statement work := fun s => s.atomic work
  transaction work := fun s => s.atomic work
  transaction? work := fun s => s.atomic? work

section
variable {m : Type → Type} [Monad m] [MonadLiftT (Except Error) m] [MonadStore m]
open MonadStore

namespace OutboxTable

/-- The end of a claim. -/
def claimEnd (now : Instant) (lease : Period) : Except Error Instant :=
  match now.add? lease with
  | some claimEnd => .ok claimEnd
  | none => .error (.config ("claim lease out of range: " ++ lease.text))

/-- Returns the first entries that are due, as they are, and hides them for the time of the lease.
`clock` is the time of the tables. -/
def fetchDue (table : OutboxTable) (now : Instant) (limit : Int) (lease : Period)
    (clock : Instant) : m (List OutboxEntry) := do
  let claimEnd ← claimEnd now lease
  transaction do
    let entries ← Work.onOutbox table fun rows => return (← rows.firstDue now limit clock, rows)
    if !entries.isEmpty then
      Work.onOutbox table fun rows => return ((), ← rows.claimAll entries claimEnd clock)
    return entries

/-- Gives entries back one after the other and counts the rows that this changes. -/
def giveBack (table : OutboxTable) (clock : Instant) : List OutboxEntry → Work Nat
  | [] => return 0
  | entry :: rest => do
    let count ← Work.onOutbox table fun rows => rows.giveBackOne entry clock
    let more ← giveBack table clock rest
    return count + more

/-- Gives entries back that were not attempted: their schedule is again what it was. -/
def release (table : OutboxTable) (entries : List OutboxEntry) (clock : Instant) : m Nat :=
  if entries.isEmpty then return 0
  else transaction (giveBack table clock entries)

/-- Writes transitions one after the other and names the entries that were still as expected. -/
def settle (table : OutboxTable) (clock : Instant) : List EntryTransition → Work (List Uuid)
  | [] => return []
  | t :: rest => do
    let landed ← Work.onOutbox table fun rows => rows.applyTransition t clock
    let ids ← settle table clock rest
    return if landed then t.id :: ids else ids

/-- Writes transitions, all or none of them. -/
def applyTransitions (table : OutboxTable) (transitions : List EntryTransition)
    (clock : Instant) : m (List Uuid) :=
  if transitions.isEmpty then return []
  else transaction (settle table clock transitions)

/-- Deletes settled entries from before `cutoff`, at most `limit` of them. -/
def cleanup (table : OutboxTable) (cutoff : Instant) (limit : Int) : m CleanupStats :=
  transaction do
    let total ← Work.onOutbox table fun rows => return (← rows.countExpired cutoff, rows)
    if total = 0 then return ⟨0, 0⟩
    let deleted ← Work.onOutbox table fun rows => rows.deleteExpired cutoff limit
    return ⟨deleted, total - deleted⟩

/-- Makes failed entries pending again. -/
def requeueFailed (table : OutboxTable) (ids : List Uuid) (due clock : Instant) : m Nat :=
  if ids.isEmpty then return 0
  else statement (Work.onOutbox table fun rows => rows.renewFailed ids due clock)

end OutboxTable

end

end OutboxRelay
