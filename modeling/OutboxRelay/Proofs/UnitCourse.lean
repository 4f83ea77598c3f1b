import Mathlib.Data.List.Induction
import OutboxRelay.Proofs.OutboxHistory
import OutboxRelay.Proofs.StoredPayload

namespace OutboxRelay

/-- What is done through a savepoint until it is committed or dropped. -/
inductive Savepoint
  | close (isKept : Bool)
  | write (change : Tables → Except Error Tables) (rest : Savepoint)
  | nested (inner rest : Savepoint)

/-- Goes on whatever comes of a step. -/
def Work.attempt {α : Type} (work : Work α) : Work Unit := fun u => (.ok (), (work.run u).2)

namespace Savepoint

/-- A savepoint that is dropped undoes its part of the unit, and so does one that cannot be kept
since one of its statements was refused. -/
def run : Savepoint → Work Unit
  | close true => pure ()
  | close false => throw (.internal "savepoint dropped")
  | write change rest => do
    Work.attempt (Work.statement fun t => return ((), ← change t))
    rest.run
  | nested inner rest => do
    Work.attempt (Work.savepoint inner.run)
    rest.run

/-- Nothing is written to an outbox. -/
def SparesOutboxes : Savepoint → Prop
  | close _ => True
  | write change rest =>
    (∀ t t' table, change t = .ok t' → t'.outbox table = t.outbox table) ∧ rest.SparesOutboxes
  | nested inner rest => inner.SparesOutboxes ∧ rest.SparesOutboxes

end Savepoint

/-- What a caller does with an open unit of work, or beside it. -/
inductive UnitStep
  | emit (settings : OutboxSettings) (now : Instant) (event : NewOutboxEvent)
  | onCommit (hook : Hook)
  | savepoint (inner : Savepoint)
  | look

/-- What the caller gets: what came of an emission, which took an identifier of this number, or what
another connection sees. -/
inductive UnitAnswer
  | emitted (number : Nat) (result : Except Error OutboxEntry)
  | seen (result : Except Error Tables)
  | done

/-- How a unit of work ends. -/
inductive UnitEnd
  | commit
  | rollback
  | dropped

/-- A unit of work that is open, and the store that other connections work on. -/
structure OpenUnit where
  store : Store
  unit : UnitOfWork

/-- The store after a unit of work has ended. -/
def UnitEnd.close (o : OpenUnit) : UnitEnd → Store
  | .commit => o.store.commit o.unit
  | .rollback => o.store.rollback o.unit
  | .dropped => o.store.rollback o.unit

namespace UnitStep

/-- What a step does to the unit that it is done in. -/
def work : UnitStep → Work Unit
  | emit settings now event => Work.attempt (settings.emit now event)
  | onCommit hook => Work.onCommit hook
  | savepoint inner => Work.attempt (Work.savepoint inner.run)
  | look => return ()

/-- One step. A look is a statement of another connection. -/
def run (o : OpenUnit) (step : UnitStep) : UnitAnswer × OpenUnit :=
  match step with
  | emit settings now event =>
    (.emitted o.unit.serial ((settings.emit now event).run o.unit).1,
      { o with unit := (step.work.run o.unit).2 })
  | onCommit _ => (.done, { o with unit := (step.work.run o.unit).2 })
  | savepoint _ => (.done, { o with unit := (step.work.run o.unit).2 })
  | look =>
    let (result, store) := (MonadStore.statement Work.tables : Access Tables).run o.store
    (.seen result, { o with store })

/-- Whether a step is to emit an event of this type and key into the table. -/
def claims (table : OutboxTable) (eventType key : String) : UnitStep → Bool
  | emit settings _ event =>
    settings.table = table && (event.eventType = eventType && event.resolvedKey = key)
  | _ => false

/-- The rows that a step is answered to have added to a table. -/
def emitted (table : OutboxTable) : UnitStep × UnitAnswer → List OutboxEntry
  | (emit settings _ _, .emitted _ (.ok entry)) => if settings.table = table then [entry] else []
  | _ => []

/-- The rows that a step leaves in a table though its emission fails: they are there, but they cannot
be read. -/
def stranded (table : OutboxTable) : UnitStep × UnitAnswer → List OutboxEntry
  | (emit settings now event, .emitted number (.error (.database .unreadable))) =>
    if settings.table = table then [settings.newEntry (Uuid.ofSerial number) event now] else []
  | _ => []

/-- All rows that a step adds to a table. -/
def rows (table : OutboxTable) (step : UnitStep × UnitAnswer) : List OutboxEntry :=
  emitted table step ++ stranded table step

/-- The hooks that a step registers, given what it is answered. -/
def hooks : UnitStep × UnitAnswer → List Hook
  | (emit settings _ _, .emitted _ (.ok _)) => [.schedule settings.trigger]
  | (onCommit hook, _) => [hook]
  | _ => []

end UnitStep

namespace OpenUnit

/-- The steps of a unit of work with their answers, and what they lead to. -/
def follow (o : OpenUnit) : List UnitStep → List (UnitStep × UnitAnswer) × OpenUnit
  | [] => ([], o)
  | step :: rest =>
    let (answer, next) := step.run o
    let (answers, last) := next.follow rest
    ((step, answer) :: answers, last)

end OpenUnit

/-- A unit of work on the store that has just begun. -/
def Store.opened (s : Store) : OpenUnit := ⟨s, s.begin⟩

/-- A closure that goes through steps and then comes to a result. -/
def UnitStep.closure {α : Type} (result : Except Error α) : List UnitStep → Work α
  | [] => result
  | step :: rest => do
    step.work
    closure result rest

/-- An event whose texts and payload the table can hold. -/
structure NewOutboxEvent.Storable (event : NewOutboxEvent) : Prop where
  texts : [event.aggregateType, event.aggregateId, event.eventType, event.resolvedKey].any hasNull =
    false
  payload : event.resolvedPayload.hasNull = false

/-- A number of attempts that the table can hold. -/
structure OutboxSettings.Storable (settings : OutboxSettings) : Prop where
  positive : 0 < settings.maxAttempts
  fits : settings.maxAttempts ≤ maxInt32

/-- Events and settings are storable, and savepoints keep away from the outboxes. -/
def UnitStep.Admissible : UnitStep → Prop
  | emit settings _ event => settings.Storable ∧ event.Storable
  | savepoint inner => inner.SparesOutboxes
  | _ => True

/-- The identifiers that come next are not in use. -/
def UnitOfWork.Fresh (u : UnitOfWork) (count : Nat) : Prop :=
  ∀ table, ∀ row ∈ u.tables.outbox table, ∀ k < count, row.id ≠ Uuid.ofSerial (u.serial + k)

theorem OutboxSettings.default_storable : ({} : OutboxSettings).Storable where
  positive := (by decide : 0 < defaultMaxAttempts)
  fits := (by decide : defaultMaxAttempts ≤ maxInt32)

theorem OutboxSettings.newEntry_accepted {settings : OutboxSettings} {event : NewOutboxEvent}
    (limit : settings.Storable) (storable : event.Storable) (id : Uuid) (now : Instant) :
    (settings.newEntry id event now).fault? = none := by
  have positive := limit.positive
  have fits := limit.fits
  have lowest : minInt32 ≤ 0 := by decide
  have highest : 0 ≤ maxInt32 := by decide
  refine OutboxEntry.fault?_eq_none_iff.mpr ⟨⟨storable.texts, rfl⟩, ?_, ?_, ?_⟩
  · rfl
  · rw [fitsInt32, Bool.and_eq_true, decide_eq_true_eq, decide_eq_true_eq]
    exact ⟨by simp only [newEntry]; omega, fits⟩
  · exact OutboxEntry.isLawful_iff.mpr ⟨Int.le_refl 0, positive, fun _ => rfl, fun _ => rfl⟩

theorem OutboxRows.insert_of_hasKey {rows : OutboxRows} {entry : OutboxEntry}
    (accepted : entry.fault? = none)
    (taken : rows.hasKey entry.eventType entry.idempotencyKey = true) :
    rows.insert entry = .error (.database .unique) := by
  simp only [insert, accepted, taken, Bool.true_or, if_true]

theorem OutboxRows.hasKey_eq_false_iff {rows : OutboxRows} {eventType key : String} :
    rows.hasKey eventType key = false ↔
      ∀ row ∈ rows, ¬(row.eventType = eventType ∧ row.idempotencyKey = key) := by
  simp only [hasKey, List.any_eq_false, Bool.and_eq_true, decide_eq_true_eq]

theorem OutboxRows.hasKey_append (rows more : OutboxRows) (eventType key : String) :
    hasKey (rows ++ more) eventType key = (rows.hasKey eventType key || hasKey more eventType key) :=
  List.any_append

namespace UnitOfWork
variable {u : UnitOfWork} {settings : OutboxSettings} {now : Instant} {event : NewOutboxEvent}
  {table : OutboxTable}

/-- The unit after an event has been put into an outbox. -/
def emitting (u : UnitOfWork) (settings : OutboxSettings) (now : Instant)
    (event : NewOutboxEvent) : UnitOfWork :=
  { u with
    tables := u.tables.setOutbox settings.table
      (u.tables.outbox settings.table ++ [settings.newEntry (Uuid.ofSerial u.serial) event now])
    hooks := u.hooks ++ [.schedule settings.trigger]
    serial := u.serial + 1 }

/-- The unit after an event has been put there that cannot be read: nobody is to hear of it. -/
def stranding (u : UnitOfWork) (settings : OutboxSettings) (now : Instant)
    (event : NewOutboxEvent) : UnitOfWork :=
  { u.emitting settings now event with hooks := u.hooks }

/-- The unit after an event has been refused: an identifier is used up. -/
def refusing (u : UnitOfWork) : UnitOfWork := { u with serial := u.serial + 1 }

/-- An event is put into the outbox unless its key is `taken`. If it is, the emission fails, and the
rows and hooks of the unit are as before. An event that cannot be read back is put there all the
same, but its emission fails and registers no hook. -/
def EmitsUnless (u : UnitOfWork) (settings : OutboxSettings) (now : Instant)
    (event : NewOutboxEvent) (taken : Bool) : Prop :=
  (settings.emit now event).run u =
    if taken then (.error (.duplicateEvent event.eventType event.resolvedKey), u.refusing)
    else if event.resolvedPayload.readBack?.isSome then
      (.ok (settings.newEntry (Uuid.ofSerial u.serial) event now), u.emitting settings now event)
    else (.error (.database .unreadable), u.stranding settings now event)

theorem insertEntry_of_free (limit : settings.Storable) (storable : event.Storable)
    (unused : ∀ row ∈ u.tables.outbox settings.table, row.id ≠ Uuid.ofSerial u.serial)
    (free : OutboxRows.hasKey (u.tables.outbox settings.table) event.eventType event.resolvedKey =
      false) (now : Instant) :
    let entry := settings.newEntry (Uuid.ofSerial u.serial) event now
    OutboxSettings.insertEntry event entry (u.tables.outbox settings.table) =
      .ok (entry, u.tables.outbox settings.table ++ [entry]) := by
  intro entry
  have accepted := OutboxSettings.newEntry_accepted limit storable (Uuid.ofSerial u.serial) now
  exact OutboxSettings.insertEntry_eq_ok_iff.mpr ⟨rfl, storable.payload, OutboxRows.insert_eq_ok_iff.mpr
    ⟨accepted, OutboxRows.hasKey_eq_false_iff.mp free, unused, rfl⟩⟩

theorem emit_of_free (usable : u.isAborted = false) (limit : settings.Storable)
    (storable : event.Storable) (readable : event.resolvedPayload.readBack?.isSome = true)
    (unused : ∀ row ∈ u.tables.outbox settings.table, row.id ≠ Uuid.ofSerial u.serial)
    (free : OutboxRows.hasKey (u.tables.outbox settings.table) event.eventType event.resolvedKey =
      false) (now : Instant) :
    (settings.emit now event).run u =
      (.ok (settings.newEntry (Uuid.ofSerial u.serial) event now), u.emitting settings now event) := by
  rw [settings.run_emit now event usable, insertEntry_of_free limit storable unused free now]
  exact if_pos readable

theorem emit_of_unreadable (usable : u.isAborted = false) (limit : settings.Storable)
    (storable : event.Storable) (unreadable : event.resolvedPayload.readBack?.isSome = false)
    (unused : ∀ row ∈ u.tables.outbox settings.table, row.id ≠ Uuid.ofSerial u.serial)
    (free : OutboxRows.hasKey (u.tables.outbox settings.table) event.eventType event.resolvedKey =
      false) (now : Instant) :
    (settings.emit now event).run u =
      (.error (.database .unreadable), u.stranding settings now event) := by
  rw [settings.run_emit now event usable, insertEntry_of_free limit storable unused free now]
  exact if_neg (Bool.eq_false_iff.mp unreadable)

theorem emit_of_taken (usable : u.isAborted = false) (limit : settings.Storable)
    (storable : event.Storable)
    (taken : OutboxRows.hasKey (u.tables.outbox settings.table) event.eventType event.resolvedKey =
      true) (now : Instant) :
    (settings.emit now event).run u =
      (.error (.duplicateEvent event.eventType event.resolvedKey), u.refusing) := by
  rw [settings.run_emit now event usable, OutboxSettings.insertEntry,
    if_neg (Bool.eq_false_iff.mp storable.payload), OutboxRows.insert_of_hasKey
      (OutboxSettings.newEntry_accepted limit storable _ now) taken]
  rfl

theorem emitting_rows (u : UnitOfWork) (settings : OutboxSettings) (now : Instant)
    (event : NewOutboxEvent) (table : OutboxTable) :
    (u.emitting settings now event).tables.outbox table = u.tables.outbox table ++
      if settings.table = table then [settings.newEntry (Uuid.ofSerial u.serial) event now]
      else [] := by
  split
  · rename_i same
    subst same
    exact Tables.outbox_setOutbox _ _ _
  · rename_i different
    rw [List.append_nil]
    exact Tables.outbox_setOutbox_of_ne _ _ different

/-- Two units with the same rows in both outboxes, the same hooks and the same next identifier. -/
structure Alike (u v : UnitOfWork) : Prop where
  rows : ∀ table, v.tables.outbox table = u.tables.outbox table
  hooks : v.hooks = u.hooks
  serial : v.serial = u.serial

theorem Alike.refl (u : UnitOfWork) : u.Alike u := ⟨fun _ => rfl, rfl, rfl⟩

theorem Alike.trans {u v w : UnitOfWork} (first : u.Alike v) (second : v.Alike w) : u.Alike w where
  rows table := (second.rows table).trans (first.rows table)
  hooks := second.hooks.trans first.hooks
  serial := second.serial.trans first.serial

theorem Alike.savepoint {α : Type} {work : Work α} {u : UnitOfWork}
    (alike : u.Alike (work.run u).2) : u.Alike ((Work.savepoint work).run u).2 := by
  rcases Bool.eq_false_or_eq_true u.isAborted with aborted | usable
  · rw [Work.run_savepoint_aborted work aborted]
    exact .refl u
  · rw [Work.run_savepoint work usable]
    rcases run : work.run u with ⟨_ | _, v⟩
    · rw [run] at alike
      exact ⟨fun _ => rfl, rfl, alike.serial⟩
    · rw [run] at alike
      dsimp only
      split
      · exact ⟨fun _ => rfl, rfl, alike.serial⟩
      · exact alike

theorem Alike.statement {u : UnitOfWork} {change : Tables → Except Error Tables}
    (kept : ∀ t' table, change u.tables = .ok t' → t'.outbox table = u.tables.outbox table) :
    u.Alike ((Work.statement fun t => return ((), ← change t)).run u).2 := by
  rcases Bool.eq_false_or_eq_true u.isAborted with aborted | usable
  · rw [Work.run_statement_aborted _ aborted]
    exact .refl u
  · rw [Work.run_statement _ usable]
    cases done : change u.tables with
    | error e => exact ⟨fun _ => rfl, rfl, rfl⟩
    | ok t => exact ⟨fun table => kept t table done, rfl, rfl⟩

/-- Whatever becomes of a savepoint, the unit is as usable as it was. -/
theorem isAborted_savepoint {α : Type} (work : Work α) (u : UnitOfWork) :
    ((Work.savepoint work).run u).2.isAborted = u.isAborted := by
  rcases Bool.eq_false_or_eq_true u.isAborted with aborted | usable
  · rw [Work.run_savepoint_aborted work aborted]
  · rw [Work.run_savepoint work usable]
    rcases work.run u with ⟨_ | _, v⟩
    · rfl
    · dsimp only
      split
      · rfl
      · rename_i kept
        exact (Bool.eq_false_iff.mpr kept).trans usable.symm

end UnitOfWork

/-- Whatever is done through a savepoint, the outboxes of the unit and its hooks are as before. -/
theorem Savepoint.alike {inner : Savepoint} (spares : inner.SparesOutboxes) (u : UnitOfWork) :
    u.Alike (inner.run.run u).2 := by
  induction inner generalizing u with
  | close isKept => cases isKept <;> exact .refl u
  | write change rest ih =>
    obtain ⟨kept, others⟩ := spares
    exact (UnitOfWork.Alike.statement (kept u.tables)).trans (ih others _)
  | nested inner rest ihInner ihRest =>
    obtain ⟨within, others⟩ := spares
    exact (ihInner within u).savepoint.trans (ihRest others _)

/-- What a step of a unit of work does to it and to the keys in its outboxes. The store beside it is
as before. -/
structure UnitStep.Effect (step : UnitStep) (answer : UnitAnswer) (o last : OpenUnit) : Prop where
  store : last.store = o.store
  usable : last.unit.isAborted = o.unit.isAborted
  rows : ∀ table, last.unit.tables.outbox table =
    o.unit.tables.outbox table ++ UnitStep.rows table (step, answer)
  hooks : last.unit.hooks = o.unit.hooks ++ UnitStep.hooks (step, answer)
  serial : o.unit.serial ≤ last.unit.serial ∧ last.unit.serial ≤ o.unit.serial + 1
  issued : ∀ table, ∀ row ∈ UnitStep.rows table (step, answer),
    row.id = Uuid.ofSerial o.unit.serial ∧ last.unit.serial = o.unit.serial + 1
  keys : ∀ table eventType key, OutboxRows.hasKey (last.unit.tables.outbox table) eventType key =
    (OutboxRows.hasKey (o.unit.tables.outbox table) eventType key || step.claims table eventType key)

namespace UnitStep
variable {o : OpenUnit}

/-- A step that is not an emission, whatever hooks it registers. -/
theorem effect_of_alike {step : UnitStep} {answer : UnitAnswer} {last : OpenUnit}
    (store : last.store = o.store) (usable : last.unit.isAborted = o.unit.isAborted)
    (rows : ∀ table, last.unit.tables.outbox table = o.unit.tables.outbox table)
    (serial : last.unit.serial = o.unit.serial)
    (hooks : last.unit.hooks = o.unit.hooks ++ UnitStep.hooks (step, answer))
    (silent : ∀ table, UnitStep.rows table (step, answer) = [])
    (unclaimed : ∀ table eventType key, step.claims table eventType key = false) :
    step.Effect answer o last where
  store := store
  usable := usable
  rows table := by rw [silent, List.append_nil, rows]
  hooks := hooks
  serial := by omega
  issued table row member := by
    rw [silent] at member
    cases member
  keys table eventType key := by rw [rows, unclaimed, Bool.or_false]

/-- A step that puts a row into an outbox, whether it is answered so or not. -/
theorem effect_of_put {settings : OutboxSettings} {now : Instant} {event : NewOutboxEvent}
    {answer : UnitAnswer} {v : UnitOfWork} (usable : v.isAborted = o.unit.isAborted)
    (tables : v.tables = (o.unit.emitting settings now event).tables)
    (serial : v.serial = o.unit.serial + 1)
    (rows : ∀ table, UnitStep.rows table (emit settings now event, answer) =
      if settings.table = table then [settings.newEntry (Uuid.ofSerial o.unit.serial) event now]
      else [])
    (hooks : v.hooks = o.unit.hooks ++ UnitStep.hooks (emit settings now event, answer)) :
    (emit settings now event).Effect answer o { o with unit := v } where
  store := rfl
  usable := usable
  rows table := by rw [tables, o.unit.emitting_rows settings now event, rows]
  hooks := hooks
  serial := by
    dsimp only
    omega
  issued table row member := by
    rw [rows] at member
    split at member
    · cases List.mem_singleton.mp member
      exact ⟨rfl, serial⟩
    · cases member
  keys table eventType key := by
    rw [tables, o.unit.emitting_rows settings now event, OutboxRows.hasKey_append, claims]
    by_cases same : settings.table = table
    · rw [if_pos same, decide_eq_true same, Bool.true_and]
      exact congrArg _ (Bool.or_false _)
    · rw [if_neg same, decide_eq_false same, Bool.false_and]
      rfl

theorem effect_of_emit {settings : OutboxSettings} {event : NewOutboxEvent} (now : Instant)
    (usable : o.unit.isAborted = false) (limit : settings.Storable) (storable : event.Storable)
    (unused : ∀ table, ∀ row ∈ o.unit.tables.outbox table, row.id ≠ Uuid.ofSerial o.unit.serial) :
    (emit settings now event).Effect ((emit settings now event).run o).1 o
      ((emit settings now event).run o).2 := by
  change (emit settings now event).Effect (.emitted _ ((settings.emit now event).run o.unit).1) o
    { o with unit := ((settings.emit now event).run o.unit).2 }
  cases free : OutboxRows.hasKey (o.unit.tables.outbox settings.table) event.eventType
    event.resolvedKey with
  | false =>
    cases readable : event.resolvedPayload.readBack?.isSome with
    | true =>
      rw [UnitOfWork.emit_of_free usable limit storable readable (unused settings.table) free now]
      exact effect_of_put rfl rfl rfl (fun _ => List.append_nil _) rfl
    | false =>
      rw [UnitOfWork.emit_of_unreadable usable limit storable readable (unused settings.table) free
        now]
      exact effect_of_put rfl rfl rfl (fun _ => List.nil_append _) (List.append_nil _).symm
  | true =>
    rw [UnitOfWork.emit_of_taken usable limit storable free now]
    refine ⟨rfl, rfl, fun _ => (List.append_nil _).symm, (List.append_nil _).symm,
      ⟨Nat.le_succ _, Nat.le_refl _⟩, fun _ _ member => absurd member List.not_mem_nil,
      fun table eventType key => ?_⟩
    -- the key that the step claims is there already
    change OutboxRows.hasKey (o.unit.tables.outbox table) eventType key = _
    rw [eq_comm, Bool.or_eq_left_iff_imp, claims, Bool.and_eq_true, Bool.and_eq_true,
      decide_eq_true_eq, decide_eq_true_eq, decide_eq_true_eq]
    rintro ⟨rfl, rfl, rfl⟩
    exact free

theorem run_effect {step : UnitStep} (admissible : step.Admissible)
    (usable : o.unit.isAborted = false)
    (unused : ∀ table, ∀ row ∈ o.unit.tables.outbox table, row.id ≠ Uuid.ofSerial o.unit.serial) :
    step.Effect (step.run o).1 o (step.run o).2 := by
  cases step with
  | emit settings now event => exact effect_of_emit now usable admissible.1 admissible.2 unused
  | onCommit hook =>
    exact effect_of_alike rfl rfl (fun _ => rfl) rfl rfl (fun _ => rfl) fun _ _ _ => rfl
  | savepoint inner =>
    have alike := (Savepoint.alike admissible o.unit).savepoint
    exact effect_of_alike rfl (UnitOfWork.isAborted_savepoint inner.run o.unit) alike.rows alike.serial
      (alike.hooks.trans (List.append_nil _).symm) (fun _ => rfl) fun _ _ _ => rfl
  | look =>
    have same : ((look).run o).2 = o := rfl
    rw [same]
    exact effect_of_alike rfl rfl (fun _ => rfl) rfl (List.append_nil _).symm (fun _ => rfl)
      fun _ _ _ => rfl

/-- The unit that a step leaves is what its work leaves. -/
theorem unit_run (o : OpenUnit) (step : UnitStep) :
    (step.run o).2.unit = (step.work.run o.unit).2 ∧ (step.work.run o.unit).1 = .ok () := by
  cases step <;> exact ⟨rfl, rfl⟩

end UnitStep

/-- The identifiers after those that a step takes are still not in use. -/
theorem UnitStep.Effect.fresh {step : UnitStep} {answer : UnitAnswer} {o last : OpenUnit}
    {count : Nat} (effect : step.Effect answer o last) (fresh : o.unit.Fresh (count + 1))
    (room : o.unit.serial + (count + 1) ≤ 2 ^ 128) : last.unit.Fresh count := by
  intro table row member k bound
  have rising := effect.serial
  rw [effect.rows] at member
  rcases List.mem_append.mp member with old | new
  · have apart := fresh table row old (last.unit.serial + k - o.unit.serial) (by omega)
    rwa [show o.unit.serial + (last.unit.serial + k - o.unit.serial) = last.unit.serial + k by omega]
      at apart
  · obtain ⟨isNew, next⟩ := effect.issued table row new
    rw [isNew]
    exact Uuid.ofSerial_ne (by omega) (by omega)

theorem UnitOfWork.Fresh.unused {u : UnitOfWork} {count : Nat} (fresh : u.Fresh (count + 1)) :
    ∀ table, ∀ row ∈ u.tables.outbox table, row.id ≠ Uuid.ofSerial u.serial :=
  fun table row member => fresh table row member 0 (Nat.succ_pos count)

/-- The rows have identifiers that were given out before `serial`. -/
def OutboxRows.Issued (rows : OutboxRows) (serial : Nat) : Prop :=
  ∀ row ∈ rows, ∃ number < serial, row.id = Uuid.ofSerial number

theorem OutboxRows.Emitted.issued {rows rows' : OutboxRows} {serial serial' : Nat}
    (emitted : Emitted rows serial rows' serial') (issued : rows.Issued serial) :
    rows'.Issued serial' := by
  induction emitted with
  | quiet bound =>
    intro row member
    obtain ⟨number, before, same⟩ := issued row member
    exact ⟨number, by omega, same⟩
  | put _ _ _ _ inserted _ bound ih =>
    obtain ⟨_, _, _, rfl⟩ := insert_eq_ok_iff.mp inserted
    intro row member
    rcases List.mem_append.mp member with old | new
    · obtain ⟨number, before, same⟩ := ih row old
      exact ⟨number, by omega, same⟩
    · exact ⟨_, bound, congrArg _ (List.mem_singleton.mp new)⟩

namespace Store
variable {s : Store} {u : UnitOfWork}

theorem perform_issued {table : OutboxTable} (s : Store) (x : Transaction)
    (consistent : (s.rows table).Consistent) (issued : (s.rows table).Issued s.serial) :
    ((s.perform x).2.rows table).Issued (s.perform x).2.serial := by
  cases reworks : x.call.reworks with
  | false => exact ((s.perform_step x table).emitted_of_not_reworks reworks).issued issued
  | true =>
    obtain ⟨change, course⟩ := s.perform_course x consistent
    have silent : s.emissions table x = [] := by
      unfold emissions
      split
      · rename_i isCall
        rw [isCall] at reworks
        cases reworks
      · rename_i isCall
        rw [isCall] at reworks
        cases reworks
      · exact if_pos reworks
    intro row member
    rw [course.rows, silent, List.append_nil] at member
    obtain ⟨old, there, rfl⟩ := List.mem_map.mp member
    have before := List.mem_of_mem_filter there
    obtain ⟨number, earlier, same⟩ := issued old before
    exact ⟨number, Nat.lt_of_lt_of_le earlier (s.serial_le_perform x),
      (OutboxEntry.id_of_fixedPart (course.fixed old before)).trans same⟩

theorem after_issued (run : List Transaction) (table : OutboxTable) :
    ((({} : Store).after run).rows table).Issued (({} : Store).after run).serial := by
  induction run using List.reverseRecOn with
  | nil => cases table <;> exact fun _ member => absurd member List.not_mem_nil
  | append_singleton before x ih =>
    rw [after_append, after_cons, after_nil]
    exact perform_issued _ x (after_consistent before table) ih

/-- In a store that calls have led to, the identifiers that come next are not in use. -/
theorem after_fresh (run : List Transaction) {count : Nat}
    (room : (({} : Store).after run).serial + count ≤ 2 ^ 128) :
    (({} : Store).after run).begin.Fresh count := by
  intro table row member k bound same
  obtain ⟨number, before, isNumber⟩ := after_issued run table row member
  have next : (({} : Store).after run).begin.serial = (({} : Store).after run).serial := rfl
  exact Uuid.ofSerial_ne (by omega) (by omega) (isNumber.symm.trans same)

end Store

namespace OpenUnit
variable {o : OpenUnit}

/-- What the steps of a unit of work come to, when `spare` identifiers are left after them. -/
structure Followed (o : OpenUnit) (steps : List UnitStep) (spare : Nat) : Prop where
  store : (o.follow steps).2.store = o.store
  usable : (o.follow steps).2.unit.isAborted = false
  rows : ∀ table, (o.follow steps).2.unit.tables.outbox table =
    o.unit.tables.outbox table ++ (o.follow steps).1.flatMap (UnitStep.rows table)
  hooks : (o.follow steps).2.unit.hooks =
    o.unit.hooks ++ (o.follow steps).1.flatMap UnitStep.hooks
  keys : ∀ table eventType key,
    OutboxRows.hasKey ((o.follow steps).2.unit.tables.outbox table) eventType key =
      (OutboxRows.hasKey (o.unit.tables.outbox table) eventType key ||
        steps.any (·.claims table eventType key))
  fresh : (o.follow steps).2.unit.Fresh spare
  room : (o.follow steps).2.unit.serial + spare ≤ 2 ^ 128

theorem follow_course {steps : List UnitStep} {spare : Nat}
    (admissible : ∀ step ∈ steps, step.Admissible) (usable : o.unit.isAborted = false)
    (fresh : o.unit.Fresh (steps.length + spare))
    (room : o.unit.serial + (steps.length + spare) ≤ 2 ^ 128) : o.Followed steps spare := by
  induction steps generalizing o with
  | nil =>
    rw [List.length_nil, Nat.zero_add] at fresh room
    exact ⟨rfl, usable, fun _ => (List.append_nil _).symm, (List.append_nil _).symm,
      fun _ _ _ => (Bool.or_false _).symm, fresh, room⟩
  | cons step rest ih =>
    rw [List.length_cons, Nat.add_right_comm] at fresh room
    have effect := step.run_effect (admissible step List.mem_cons_self) usable fresh.unused
    have rising := effect.serial
    have others := ih (fun other member => admissible other (List.mem_cons_of_mem _ member))
      (effect.usable.trans usable) (effect.fresh fresh room) (by omega)
    refine ⟨others.store.trans effect.store, others.usable, fun table => ?_, ?_,
      fun table eventType key => ?_, others.fresh, others.room⟩
    · rw [follow, others.rows, effect.rows, List.flatMap_cons, List.append_assoc]
    · rw [follow, others.hooks, effect.hooks, List.flatMap_cons, List.append_assoc]
    · rw [follow, others.keys, effect.keys, List.any_cons, Bool.or_assoc]

/-- Another connection sees what the store holds, at every moment. -/
theorem seen_of_follow {steps : List UnitStep} {step : UnitStep} {result : Except Error Tables}
    (admissible : ∀ step ∈ steps, step.Admissible) (usable : o.unit.isAborted = false)
    (fresh : o.unit.Fresh steps.length) (room : o.unit.serial + steps.length ≤ 2 ^ 128)
    (member : (step, .seen result) ∈ (o.follow steps).1) : result = .ok o.store.tables := by
  induction steps generalizing o with
  | nil => cases member
  | cons first rest ih =>
    rw [List.length_cons] at fresh room
    have effect := first.run_effect (admissible first List.mem_cons_self) usable fresh.unused
    have rising := effect.serial
    rcases List.mem_cons.mp member with now | later
    · cases first <;> cases now
      rfl
    · rw [← effect.store]
      exact ih (fun other there => admissible other (List.mem_cons_of_mem _ there))
        (effect.usable.trans usable) (effect.fresh fresh room) (by omega) later

/-- A closure does to the unit what its steps do to it. -/
theorem run_closure {α : Type} (result : Except Error α) (o : OpenUnit) (steps : List UnitStep) :
    (UnitStep.closure result steps).run o.unit = (result, (o.follow steps).2.unit) := by
  induction steps generalizing o with
  | nil => cases result <;> rfl
  | cons step rest ih =>
    obtain ⟨left, goesOn⟩ := step.unit_run o
    have first : step.work.run o.unit = (.ok (), (step.run o).2.unit) := Prod.ext goesOn left.symm
    rw [UnitStep.closure, Stateful.run_bind_ok first, ih]
    rfl

end OpenUnit

/-- The rows that steps add are those that they are answered to have added, unless one of them is
left behind by an emission that fails. -/
theorem UnitStep.flatMap_rows_eq_iff (table : OutboxTable) (transcript : List (UnitStep × UnitAnswer)) :
    transcript.flatMap (rows table) = transcript.flatMap (emitted table) ↔
      ∀ x ∈ transcript, stranded table x = [] := by
  have lengths : (transcript.flatMap (rows table)).length =
      (transcript.flatMap (emitted table)).length + (transcript.flatMap (stranded table)).length := by
    induction transcript with
    | nil => rfl
    | cons x rest ih =>
      simp only [List.flatMap_cons, List.length_append, ih, rows]
      omega
  rw [← List.flatMap_eq_nil_iff]
  constructor
  · intro same
    rw [same] at lengths
    exact List.eq_nil_of_length_eq_zero (by omega)
  · intro none
    refine List.flatMap_congr fun x member => ?_
    rw [rows, List.flatMap_eq_nil_iff.mp none x member, List.append_nil]

/-- A row is left behind just where an emission fails since its entry cannot be read back. -/
theorem UnitStep.stranded_eq_nil_iff {x : UnitStep × UnitAnswer} :
    (∀ table, stranded table x = []) ↔ ∀ settings now event number,
      x ≠ (emit settings now event, .emitted number (.error (.database .unreadable))) := by
  constructor
  · rintro none settings now event number rfl
    have there := none settings.table
    simp only [stranded, if_true] at there
    cases there
  · intro other table
    unfold stranded
    split
    · exact absurd rfl (other _ _ _ _)
    · rfl

namespace Store
variable {s : Store}

/-- What a unit of work does that goes through `steps`, and what is left of it when it ends. -/
structure UnitCourse (s : Store) (steps : List UnitStep) : Prop where
  /-- The key of an event is taken if it is in the table or an earlier step was to put it there. -/
  emits : ∀ before settings now event after, steps = before ++ .emit settings now event :: after →
    (s.opened.follow before).2.unit.EmitsUnless settings now event
      ((s.rows settings.table).hasKey event.eventType event.resolvedKey ||
        before.any (·.claims settings.table event.eventType event.resolvedKey))
  seen : ∀ step result, (step, .seen result) ∈ (s.opened.follow steps).1 → result = .ok s.tables
  /-- The rows of the emissions, and those that an emission which failed has left behind. -/
  committed : ∀ table, (UnitEnd.commit.close (s.opened.follow steps).2).rows table =
    s.rows table ++ (s.opened.follow steps).1.flatMap (UnitStep.rows table)
  /-- They are those of the successful emissions just if every entry could be read back. -/
  exact : (∀ table, (UnitEnd.commit.close (s.opened.follow steps).2).rows table =
      s.rows table ++ (s.opened.follow steps).1.flatMap (UnitStep.emitted table)) ↔
    ∀ settings now event number, (.emit settings now event,
      .emitted number (.error (.database .unreadable))) ∉ (s.opened.follow steps).1
  ran : (UnitEnd.commit.close (s.opened.follow steps).2).ran =
    s.ran ++ (s.opened.follow steps).1.flatMap UnitStep.hooks
  /-- A trigger that fails is in the log. It keeps neither rows nor other hooks back. -/
  logged : (UnitEnd.commit.close (s.opened.follow steps).2).logged =
    s.logged ++ ((s.opened.follow steps).1.flatMap UnitStep.hooks).filterMap Hook.error?
  undone : ∀ ending : UnitEnd, ending ≠ .commit →
    (ending.close (s.opened.follow steps).2).tables = s.tables ∧
      (ending.close (s.opened.follow steps).2).toJournal = s.toJournal
  /-- A transaction around a closure that goes through the steps, whatever it comes to. -/
  atomic : ∀ {α : Type} (result : Except Error α), s.atomic (UnitStep.closure result steps) =
    (result, (if result.isOk then UnitEnd.commit else .dropped).close (s.opened.follow steps).2)

theorem emit_course {steps before after : List UnitStep} {settings : OutboxSettings} {now : Instant}
    {event : NewOutboxEvent} (admissible : ∀ step ∈ steps, step.Admissible)
    (fresh : s.begin.Fresh steps.length) (room : s.serial + steps.length ≤ 2 ^ 128)
    (split : steps = before ++ .emit settings now event :: after) :
    (s.opened.follow before).2.unit.EmitsUnless settings now event
      ((s.rows settings.table).hasKey event.eventType event.resolvedKey ||
        before.any (·.claims settings.table event.eventType event.resolvedKey)) := by
  subst split
  rw [List.length_append, List.length_cons] at fresh room
  obtain ⟨limit, storable⟩ := admissible (.emit settings now event)
    (List.mem_append_right _ List.mem_cons_self)
  have course : s.opened.Followed before (after.length + 1) := OpenUnit.follow_course
    (fun step member => admissible step (List.mem_append_left _ member)) rfl fresh room
  have keys : OutboxRows.hasKey ((s.opened.follow before).2.unit.tables.outbox settings.table)
      event.eventType event.resolvedKey = _ := course.keys _ _ _
  change UnitOfWork.EmitsUnless _ settings now event
    (OutboxRows.hasKey (s.opened.unit.tables.outbox settings.table) _ _ || _)
  rw [← keys, UnitOfWork.EmitsUnless]
  have unused := course.fresh.unused settings.table
  split
  · rename_i taken
    exact UnitOfWork.emit_of_taken course.usable limit storable taken now
  · rename_i notTaken
    have free := (Bool.not_eq_true _).mp notTaken
    split
    · rename_i readable
      exact UnitOfWork.emit_of_free course.usable limit storable readable unused free now
    · rename_i unreadable
      exact UnitOfWork.emit_of_unreadable course.usable limit storable
        ((Bool.not_eq_true _).mp unreadable) unused free now

theorem commit_exact (steps : List UnitStep)
    (committed : ∀ table, (UnitEnd.commit.close (s.opened.follow steps).2).rows table =
      s.rows table ++ (s.opened.follow steps).1.flatMap (UnitStep.rows table)) :
    (∀ table, (UnitEnd.commit.close (s.opened.follow steps).2).rows table =
      s.rows table ++ (s.opened.follow steps).1.flatMap (UnitStep.emitted table)) ↔
    ∀ settings now event number, (.emit settings now event,
      .emitted number (.error (.database .unreadable))) ∉ (s.opened.follow steps).1 := by
  simp only [committed, List.append_cancel_left_eq, UnitStep.flatMap_rows_eq_iff]
  constructor
  · intro none settings now event number member
    exact UnitStep.stranded_eq_nil_iff.mp (fun table => none table _ member) settings now event number
      rfl
  · intro absent table x member
    refine UnitStep.stranded_eq_nil_iff.mpr ?_ table
    rintro settings now event number rfl
    exact absent settings now event number member

/-- Units of work, from any tables and through any steps. -/
theorem unit_of_work (s : Store) (steps : List UnitStep)
    (admissible : ∀ step ∈ steps, step.Admissible) (fresh : s.begin.Fresh steps.length)
    (room : s.serial + steps.length ≤ 2 ^ 128) : s.UnitCourse steps := by
  have course : s.opened.Followed steps 0 := OpenUnit.follow_course admissible rfl fresh room
  have same : (s.opened.follow steps).2.store = s := course.store
  have hooks : (s.opened.follow steps).2.unit.hooks = _ := course.hooks
  refine ⟨fun _ _ _ _ _ split => emit_course admissible fresh room split,
    fun _ _ member => OpenUnit.seen_of_follow admissible rfl fresh room member,
    course.rows, commit_exact steps course.rows, ?_, ?_, ?_, ?_⟩
  · rw [UnitEnd.close, commit_ran, hooks, same]
    rfl
  · rw [UnitEnd.close, commit_logged, hooks, same]
    rfl
  · have tables : (s.opened.follow steps).2.store.tables = s.tables := congrArg Store.tables same
    have journal := congrArg Store.toJournal same
    intro ending other
    cases ending with
    | commit => exact absurd rfl other
    | rollback => exact ⟨tables, journal⟩
    | dropped => exact ⟨tables, journal⟩
  · intro α result
    have run := s.opened.run_closure result steps
    cases result with
    | error e =>
      rw [atomic_error run]
      exact congrArg (fun store => (_, Store.rollback store _)) same.symm
    | ok a =>
      rw [atomic_ok run]
      exact congrArg (fun store => (_, Store.commit store _)) same.symm

/-- The theorem about a unit that repeats an event of the table and one of its own, with a savepoint,
a look from outside, a trigger that fails, an event that cannot be read back and a callback. -/
theorem unit_of_work_duplicates :
    let time : Instant := ⟨1767225600, 0⟩
    let first : NewOutboxEvent := ⟨"file", "1", "file.stored", none, none⟩
    let second : NewOutboxEvent := ⟨"file", "2", "file.stored", none, none⟩
    let third : NewOutboxEvent :=
      ⟨"file", "3", "file.stored", some (.obj [("$serde_json::private::RawValue", .str "[")]), none⟩
    let s := ({} : Store).after [⟨{}, time, .emit first⟩]
    let steps : List UnitStep := [.emit {} time first,
      .savepoint (.nested (.write (fun t => .ok { t with files := [] }) (.close true)) (.close false)),
      .emit { trigger := .broken } time second, .look, .emit {} time third, .emit {} time second,
      .onCommit .callback]
    (∀ step ∈ steps, step.Admissible) ∧ s.begin.Fresh steps.length ∧
      s.serial + steps.length ≤ 2 ^ 128 ∧ s.UnitCourse steps ∧
      ((UnitEnd.commit.close (s.opened.follow steps).2).rows .core).map (·.aggregateId) =
        ["1", "2", "3"] ∧
      (UnitEnd.commit.close (s.opened.follow steps).2).ran =
        [.schedule .silent, .schedule .broken, .callback] ∧
      (UnitEnd.commit.close (s.opened.follow steps).2).logged = [.internal "trigger failed"] := by
  intro time first second third s steps
  have limit : ∀ trigger, ({ trigger } : OutboxSettings).Storable := fun _ =>
    ⟨(by decide : 0 < defaultMaxAttempts), (by decide : defaultMaxAttempts ≤ maxInt32)⟩
  have admissible : ∀ step ∈ steps, step.Admissible := by
    intro step member
    simp only [steps, List.mem_cons, List.not_mem_nil, or_false] at member
    rcases member with rfl | rfl | rfl | rfl | rfl | rfl | rfl
    · exact ⟨limit _, by decide +kernel, by decide +kernel⟩
    · exact ⟨⟨fun t t' table written => by cases written; cases table <;> rfl, trivial⟩, trivial⟩
    · exact ⟨limit _, by decide +kernel, by decide +kernel⟩
    · trivial
    · exact ⟨limit _, by decide +kernel, by decide +kernel⟩
    · exact ⟨limit _, by decide +kernel, by decide +kernel⟩
    · trivial
  have room : s.serial + steps.length ≤ 2 ^ 128 := by decide +kernel
  have fresh : s.begin.Fresh steps.length := after_fresh _ room
  exact ⟨admissible, fresh, room, unit_of_work s steps admissible fresh room, by decide +kernel,
    by decide +kernel, by decide +kernel⟩

end Store

end OutboxRelay
