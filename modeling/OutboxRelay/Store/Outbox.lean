import OutboxRelay.Store.Tables

namespace OutboxRelay

namespace OutboxEntry

/-- An entry is scheduled exactly as long as it is pending. -/
def isLawful (e : OutboxEntry) : Bool :=
  0 ≤ e.attempts && 0 < e.maxAttempts && (e.status = .pending) == e.nextAttemptAt.isSome

/-- Why a table refuses the row. -/
def fault? (e : OutboxEntry) : Option StoreFault :=
  if [e.aggregateType, e.aggregateId, e.eventType, e.idempotencyKey, e.errorMessage].any hasNull then
    some .nullCharacter
  else if !(fitsInt32 e.attempts && fitsInt32 e.maxAttempts) then some .numericRange
  else if !e.isLawful then some .check
  else none

/-- The order of delivery: by schedule, then by identifier. -/
def scheduledBefore (a b : OutboxEntry) : Bool :=
  match a.nextAttemptAt, b.nextAttemptAt with
  | some s, some t => s.lt t || (s = t && !b.id.lt a.id)
  | none, some _ => false
  | some _, none => true
  | none, none => !b.id.lt a.id

def olderThan (a b : OutboxEntry) : Bool := !b.id.lt a.id

end OutboxEntry

/-- The rows of an outbox table. -/
abbrev OutboxRows := List OutboxEntry

namespace OutboxRows

def hasKey (rows : OutboxRows) (eventType key : String) : Bool :=
  rows.any fun row => row.eventType = eventType && row.idempotencyKey = key

def insert (rows : OutboxRows) (entry : OutboxEntry) : Except Error OutboxRows :=
  match entry.fault? with
  | some fault => .error (.database fault)
  | none =>
    if hasKey rows entry.eventType entry.idempotencyKey || rows.any (·.id = entry.id) then
      .error (.database .unique)
    else .ok (rows ++ [entry])

/-- Writes to all rows that `selects` picks and counts them, unless the table refuses a result. -/
def amend (rows : OutboxRows) (selects : OutboxEntry → Bool)
    (change : OutboxEntry → OutboxEntry) : Except Error (OutboxRows × Nat) :=
  let selected := rows.filter selects
  match (selected.map change).findSome? OutboxEntry.fault? with
  | some fault => .error (.database fault)
  | none => .ok (rows.map fun row => if selects row then change row else row, selected.length)

/-- A write after an attempt, or instead of one, reaches a row only if it is still as it was
fetched: pending, with the same number of attempts. -/
def isUntouched (id : Uuid) (attempts : Int) (row : OutboxEntry) : Bool :=
  row.id = id && row.status = .pending && row.attempts = attempts

/-- The rows that are due, in the order of delivery. -/
def due (rows : OutboxRows) (now : Instant) : List OutboxEntry :=
  (rows.filter (·.isDue now.stored)).mergeSort OutboxEntry.scheduledBefore

/-- A row that is hidden until a claim ends. -/
def claim (claimEnd clock : Instant) (row : OutboxEntry) : OutboxEntry :=
  { row with nextAttemptAt := some claimEnd.stored, updatedAt := clock }

/-- The first rows that are due, as they are; all of them have to be readable. -/
def firstDue (rows : OutboxRows) (now : Instant) (limit : Int) (clock : Instant) :
    Except Error (List OutboxEntry) :=
  if !now.isKnownAt clock then .error (.database .timeRange)
  else if limit < 0 then .error (.database .negativeLimit)
  else
    let fetched := (due rows now).take limit.toNat
    if fetched.all (·.isReadable) then .ok fetched else .error (.database .unreadable)

/-- Hides entries until a claim ends. -/
def claimAll (rows : OutboxRows) (entries : List OutboxEntry) (claimEnd clock : Instant) :
    Except Error OutboxRows :=
  if claimEnd.isKnownAt clock then
    .ok (rows.map fun row => if entries.any (·.id = row.id) then claim claimEnd clock row else row)
  else .error (.database .timeRange)

/-- A row with the schedule that `entry` has. -/
def restore (entry : OutboxEntry) (clock : Instant) (row : OutboxEntry) : OutboxEntry :=
  { row with nextAttemptAt := entry.nextAttemptAt.map Instant.stored, updatedAt := clock }

/-- Gives an entry back that was not attempted, unless its row has changed. -/
def giveBackOne (rows : OutboxRows) (entry : OutboxEntry) (clock : Instant) :
    Except Error (Nat × OutboxRows) :=
  (amend rows (isUntouched entry.id entry.attempts) (restore entry clock)).map Prod.swap

/-- The row after a transition. A time of delivery that is there stays if none is given. -/
def settle (t : EntryTransition) (clock : Instant) (row : OutboxEntry) : OutboxEntry :=
  { row with
    status := t.status
    attempts := t.attempts
    nextAttemptAt := t.nextAttemptAt.map Instant.stored
    deliveredAt := (t.deliveredAt.map Instant.stored).or row.deliveredAt
    errorMessage := t.errorMessage
    updatedAt := clock }

def applyTransition (rows : OutboxRows) (t : EntryTransition) (clock : Instant) :
    Except Error (Bool × OutboxRows) :=
  if hasNull t.errorMessage then .error (.database .nullCharacter)
  else do
    let (rows, count) ← amend rows (isUntouched t.id t.previousAttempts) (settle t clock)
    return (0 < count, rows)

def countOf (rows : OutboxRows) (status : OutboxStatus) : Nat :=
  rows.countP (·.status = status)

def pendingCount (rows : OutboxRows) : Int := countOf rows .pending

def statusCounts (rows : OutboxRows) : StatusCounts :=
  ⟨countOf rows .pending, countOf rows .delivered, countOf rows .failed⟩

/-- Settled rows from before `cutoff`, oldest first. -/
def expired (rows : OutboxRows) (cutoff : Instant) : List OutboxEntry :=
  (rows.filter fun row => row.status.isTerminal && row.createdAt.lt cutoff.stored).mergeSort
    OutboxEntry.olderThan

def countExpired (rows : OutboxRows) (cutoff : Instant) : Except Error Nat :=
  if cutoff.isStorable then .ok (expired rows cutoff).length else .error (.database .timeRange)

/-- Deletes the first settled rows from before `cutoff`. -/
def deleteExpired (rows : OutboxRows) (cutoff : Instant) (limit : Int) :
    Except Error (Nat × OutboxRows) :=
  if limit < 0 then .error (.database .negativeLimit)
  else
    let deleted := (expired rows cutoff).take limit.toNat
    .ok (deleted.length, rows.filter fun row => !deleted.any (·.id = row.id))

/-- A row that is pending again, as if it were new. -/
def renew (due clock : Instant) (row : OutboxEntry) : OutboxEntry :=
  { row with
    status := .pending
    attempts := 0
    nextAttemptAt := some due.stored
    errorMessage := ""
    updatedAt := clock }

/-- Makes failed entries pending again. -/
def renewFailed (rows : OutboxRows) (ids : List Uuid) (due clock : Instant) :
    Except Error (Nat × OutboxRows) :=
  if due.isStorable then do
    let (rows, count) ← amend rows (fun row => ids.contains row.id && row.status = .failed)
      (renew due clock)
    return (count, rows)
  else .error (.database .timeRange)

def get? (rows : OutboxRows) (id : Uuid) : Option OutboxEntry :=
  rows.find? (·.id = id)

/-- Rows as they are given out: all of them have to be readable. -/
def read (rows : OutboxRows) : Except Error (List OutboxEntry) :=
  if rows.all (·.isReadable) then .ok rows else .error (.database .unreadable)

/-- Entries of a status, or of any, newest first. -/
def listRecent (rows : OutboxRows) (status : Option OutboxStatus) (limit : Int) :
    Except Error (List OutboxEntry) :=
  if limit < 0 then .error (.database .negativeLimit)
  else
    let wanted := rows.filter fun row => status.all (row.status = ·)
    read ((wanted.mergeSort OutboxEntry.olderThan).reverse.take limit.toNat)

end OutboxRows

end OutboxRelay
