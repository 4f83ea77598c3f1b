import OutboxRelay.Proofs.RowWrites
import OutboxRelay.Proofs.StatefulRun
import OutboxRelay.Store.Database

namespace OutboxRelay

@[simp] theorem Tables.outbox_setOutbox (t : Tables) (table : OutboxTable)
    (rows : List OutboxEntry) : (t.setOutbox table rows).outbox table = rows := by
  cases table <;> rfl

theorem Tables.setOutbox_same (t : Tables) (table : OutboxTable) :
    t.setOutbox table (t.outbox table) = t := by
  cases table <;> rfl

theorem Tables.outbox_setOutbox_of_ne (t : Tables) {table other : OutboxTable}
    (rows : List OutboxEntry) (different : table ≠ other) :
    (t.setOutbox table rows).outbox other = t.outbox other := by
  cases table <;> cases other <;> first | rfl | exact absurd rfl different

@[simp] theorem Tables.files_setOutbox (t : Tables) (table : OutboxTable) (rows : List OutboxEntry) :
    (t.setOutbox table rows).files = t.files := by
  cases table <;> rfl

@[simp] theorem Tables.sessions_setOutbox (t : Tables) (table : OutboxTable) (rows : List OutboxEntry) :
    (t.setOutbox table rows).sessions = t.sessions := by
  cases table <;> rfl

@[simp] theorem Tables.parts_setOutbox (t : Tables) (table : OutboxTable) (rows : List OutboxEntry) :
    (t.setOutbox table rows).parts = t.parts := by
  cases table <;> rfl

/-- Writes to other tables leave both outboxes as they are. -/
theorem Tables.outbox_congr {t t' : Tables} (core : t'.core = t.core) (portal : t'.portal = t.portal)
    (table : OutboxTable) : t'.outbox table = t.outbox table := by
  cases table
  · exact core
  · exact portal

/-- In a unit of work that is open, statements and transactions are parts of it. -/
instance : MonadStore Work where
  freshId := Work.freshId
  statement work := work
  transaction work := work
  transaction? work := work

namespace Work
variable {α β : Type} {u v : UnitOfWork} {a : α}

@[simp] theorem freshId_part : (MonadStore.freshId : Work Uuid) = freshId := rfl

@[simp] theorem statement_part (w : Work α) : (MonadStore.statement w : Work α) = w := rfl

@[simp] theorem transaction_part (w : Work α) : (MonadStore.transaction w : Work α) = w := rfl

@[simp] theorem transaction?_part (w : Work (Option α)) :
    (MonadStore.transaction? w : Work (Option α)) = w := rfl

@[simp] theorem run_tables (u : UnitOfWork) : tables.run u = (.ok u.tables, u) := rfl

@[simp] theorem run_setTables (t : Tables) (u : UnitOfWork) :
    (setTables t).run u = (.ok (), { u with tables := t }) := rfl

@[simp] theorem run_freshId (u : UnitOfWork) :
    freshId.run u = (.ok (Uuid.ofSerial u.serial), { u with serial := u.serial + 1 }) := rfl

theorem run_tables_bind (f : Tables → Work α) (u : UnitOfWork) :
    (tables >>= f).run u = (f u.tables).run u :=
  Stateful.run_bind_ok (run_tables u)

theorem run_setTables_bind (t : Tables) (f : Unit → Work α) (u : UnitOfWork) :
    (setTables t >>= f).run u = (f ()).run { u with tables := t } :=
  Stateful.run_bind_ok (run_setTables t u)

theorem run_freshId_bind (f : Uuid → Work α) (u : UnitOfWork) :
    (freshId >>= f).run u = (f (Uuid.ofSerial u.serial)).run { u with serial := u.serial + 1 } :=
  Stateful.run_bind_ok (run_freshId u)

/-- A check that passes leaves the unit as it is. -/
theorem run_lift_bind_eq_ok_iff {x : Except Error β} {f : β → Work α} :
    ((liftM x : Work β) >>= f).run u = (.ok a, v) ↔ ∃ b, x = .ok b ∧ (f b).run u = (.ok a, v) := by
  rw [Stateful.run_bind, Stateful.run_lift]
  cases x with
  | error e =>
    simp only [reduceCtorEq, false_and, exists_false, iff_false]
    exact nofun
  | ok b => simp only [Except.ok.injEq, exists_eq_left']

theorem run_statement (operation : Tables → Except Error (α × Tables))
    (usable : u.isAborted = false) :
    (statement operation).run u = match operation u.tables with
      | .ok (a, t) => (.ok a, { u with tables := t })
      | .error e => (.error e, { u with isAborted := true }) := by
  refine (if_neg (Bool.eq_false_iff.mp usable)).trans ?_
  rcases operation u.tables with _ | ⟨_, _⟩ <;> rfl

theorem run_statement_aborted (operation : Tables → Except Error (α × Tables))
    (aborted : u.isAborted = true) :
    (statement operation).run u = (.error (.database .aborted), u) :=
  if_pos aborted

theorem run_onOutbox (table : OutboxTable)
    (operation : OutboxRows → Except Error (α × OutboxRows)) (usable : u.isAborted = false) :
    (onOutbox table operation).run u = match operation (u.tables.outbox table) with
      | .ok (a, rows) => (.ok a, { u with tables := u.tables.setOutbox table rows })
      | .error e => (.error e, { u with isAborted := true }) := by
  rw [onOutbox, run_statement _ usable]
  rcases operation (u.tables.outbox table) with _ | ⟨_, _⟩ <;> rfl

theorem run_onOutbox_aborted (table : OutboxTable)
    (operation : OutboxRows → Except Error (α × OutboxRows)) (aborted : u.isAborted = true) :
    (onOutbox table operation).run u = (.error (.database .aborted), u) :=
  run_statement_aborted _ aborted

theorem onOutbox_eq_ok_iff {table : OutboxTable}
    {operation : OutboxRows → Except Error (α × OutboxRows)} :
    (onOutbox table operation).run u = (.ok a, v) ↔
      u.isAborted = false ∧ ∃ rows, operation (u.tables.outbox table) = .ok (a, rows) ∧
        v = { u with tables := u.tables.setOutbox table rows } := by
  cases aborted : u.isAborted with
  | true =>
    rw [run_onOutbox_aborted table operation aborted, Prod.mk.injEq]
    simp
  | false =>
    rw [run_onOutbox table operation aborted]
    rcases operation (u.tables.outbox table) with _ | ⟨_, _⟩ <;> rw [Prod.mk.injEq]
    · simp
    · simp only [Except.ok.injEq, Prod.mk.injEq, true_and]
      grind

theorem run_savepoint_aborted (w : Work α) (aborted : u.isAborted = true) :
    (savepoint w).run u = (.error (.database .aborted), u) :=
  if_pos aborted

/-- A savepoint that is kept leaves what was done in it; one that is not undoes it. -/
theorem run_savepoint (w : Work α) (usable : u.isAborted = false) :
    (savepoint w).run u = match w.run u with
      | (.ok a, v) =>
        if v.isAborted then (.error (.database .aborted), { u with serial := v.serial })
        else (.ok a, v)
      | (.error e, v) => (.error e, { u with serial := v.serial }) := by
  refine (if_neg (Bool.eq_false_iff.mp usable)).trans ?_
  rcases w.run u with ⟨_ | _, _⟩ <;> rfl

end Work

theorem Error.isDuplicateEvent_iff {e : Error} :
    e.isDuplicateEvent = true ↔ ∃ type key, e = .duplicateEvent type key := by
  cases e <;> simp [isDuplicateEvent]

namespace OutboxSettings
variable {settings : OutboxSettings} {now : Instant} {event : NewOutboxEvent} {u v : UnitOfWork}
  {entry : OutboxEntry}

/-- What emitting does to a unit of work: the row and the hook are there, or the row alone if it
cannot be read, or only the identifier is used up. -/
theorem run_emit (settings : OutboxSettings) (now : Instant) (event : NewOutboxEvent)
    (usable : u.isAborted = false) :
    (settings.emit now event).run u =
      match insertEntry event (settings.newEntry (Uuid.ofSerial u.serial) event now)
          (u.tables.outbox settings.table) with
      | .error e => (.error e, { u with serial := u.serial + 1 })
      | .ok (entry, rows) =>
        if entry.isReadable then (.ok entry, {
          u with
          tables := u.tables.setOutbox settings.table rows
          hooks := u.hooks ++ [.schedule settings.trigger]
          serial := u.serial + 1 })
        else (.error (.database .unreadable), {
          u with
          tables := u.tables.setOutbox settings.table rows
          serial := u.serial + 1 }) := by
  have begun : ({ u with serial := u.serial + 1 } : UnitOfWork).isAborted = false := usable
  rw [emit, Stateful.run_bind_ok (Work.run_freshId u), Stateful.run_bind,
    Work.run_savepoint _ begun, Work.run_onOutbox _ _ begun]
  rcases insertEntry event (settings.newEntry (Uuid.ofSerial u.serial) event now)
    (u.tables.outbox settings.table) with _ | ⟨entry, _⟩
  · rfl
  · dsimp only
    rw [if_neg (Bool.eq_false_iff.mp usable)]
    cases readable : entry.isReadable with
    | true =>
      simp only [readable, Bool.not_true, Bool.false_eq_true, if_false, if_true]
      rfl
    | false =>
      simp only [readable, Bool.not_false, Bool.false_eq_true, if_false, if_true]
      rfl

theorem run_emit_aborted (settings : OutboxSettings) (now : Instant) (event : NewOutboxEvent)
    (aborted : u.isAborted = true) :
    (settings.emit now event).run u =
      (.error (.database .aborted), { u with serial := u.serial + 1 }) := by
  rw [emit, Stateful.run_bind_ok (Work.run_freshId u)]
  exact Stateful.run_bind_error (Work.run_savepoint_aborted _ aborted)

theorem insertEntry_eq_ok_iff {stored : OutboxEntry} {rows rows' : OutboxRows} :
    insertEntry event entry rows = .ok (stored, rows') ↔
      stored = entry ∧ event.resolvedPayload.hasNull = false ∧ rows.insert entry = .ok rows' := by
  unfold insertEntry
  split
  · rename_i null
    simp only [null, reduceCtorEq, Bool.true_eq_false, false_and, and_false]
  · rename_i clean
    rw [Bool.not_eq_true] at clean
    constructor
    · intro put
      split at put <;> simp_all
    · rintro ⟨rfl, _, put⟩
      simp only [put]

theorem insertEntry_eq_duplicate_iff {rows : OutboxRows} {type key : String} :
    insertEntry event entry rows = .error (.duplicateEvent type key) ↔
      (type = event.eventType ∧ key = event.resolvedKey) ∧
        event.resolvedPayload.hasNull = false ∧ rows.insert entry = .error (.database .unique) := by
  unfold insertEntry
  cases null : event.resolvedPayload.hasNull with
  | true => simp only [if_true, Except.error.injEq, reduceCtorEq, false_and, and_false]
  | false =>
    simp only [Bool.false_eq_true, if_false, true_and]
    split
    · rename_i put
      simp only [put, reduceCtorEq, and_false]
    · rename_i refused
      simp only [refused, and_true, Except.error.injEq, Error.duplicateEvent.injEq, eq_comm]
    · rename_i e other refused
      obtain ⟨fault, rfl⟩ := OutboxRows.insert_eq_error refused
      simp only [refused, Except.error.injEq, reduceCtorEq, false_iff]
      exact fun ⟨_, isUnique⟩ => other isUnique

/-- An event is a duplicate just if its insertion says so. -/
theorem emit_eq_duplicate_iff {result : Except Error OutboxEntry} {type key : String}
    (usable : u.isAborted = false) (run : (settings.emit now event).run u = (result, v)) :
    result = .error (.duplicateEvent type key) ↔
      insertEntry event (settings.newEntry (Uuid.ofSerial u.serial) event now)
        (u.tables.outbox settings.table) = .error (.duplicateEvent type key) := by
  rw [run_emit settings now event usable] at run
  split at run
  · rename_i cause put
    cases run
    rw [put]
    simp only [Except.error.injEq]
  · rename_i put
    rw [put]
    split at run <;> cases run
    · exact ⟨nofun, nofun⟩
    · simp only [Except.error.injEq, reduceCtorEq]

theorem usable_of_duplicate {type key : String}
    (run : (settings.emit now event).run u = (.error (.duplicateEvent type key), v)) :
    u.isAborted = false := by
  refine Bool.eq_false_iff.mpr fun aborted => ?_
  rw [run_emit_aborted settings now event aborted] at run
  cases run

theorem usable_of_emit (run : (settings.emit now event).run u = (.ok entry, v)) :
    u.isAborted = false := by
  refine Bool.eq_false_iff.mpr fun aborted => ?_
  rw [run_emit_aborted settings now event aborted] at run
  cases run

theorem readable_of_emit (run : (settings.emit now event).run u = (.ok entry, v)) :
    entry.isReadable = true := by
  rw [run_emit settings now event (usable_of_emit run)] at run
  split at run
  · cases run
  · split at run
    · rename_i readable
      cases run
      exact readable
    · cases run

/-- An event that a unit puts into an outbox: a row is there, and a hook. -/
theorem emit_eq_ok (run : (settings.emit now event).run u = (.ok entry, v)) :
    entry = settings.newEntry (Uuid.ofSerial u.serial) event now ∧
      ∃ rows, OutboxRows.insert (u.tables.outbox settings.table) entry = .ok rows ∧
        v = {
          u with
          tables := u.tables.setOutbox settings.table rows
          hooks := u.hooks ++ [.schedule settings.trigger]
          serial := u.serial + 1 } := by
  rw [run_emit settings now event (usable_of_emit run)] at run
  split at run
  · cases run
  · rename_i stored rows put
    obtain ⟨rfl, _, inserted⟩ := insertEntry_eq_ok_iff.mp put
    split at run
    · cases run
      exact ⟨rfl, rows, inserted, rfl⟩
    · cases run

theorem emit_rows (run : (settings.emit now event).run u = (.ok entry, v)) (table : OutboxTable) :
    v.tables.outbox table =
      u.tables.outbox table ++ if settings.table = table then [entry] else [] := by
  obtain ⟨_, rows, inserted, rfl⟩ := emit_eq_ok run
  obtain ⟨_, _, _, rfl⟩ := OutboxRows.insert_eq_ok_iff.mp inserted
  split
  · rename_i same
    subst same
    exact Tables.outbox_setOutbox _ _ _
  · rename_i different
    rw [List.append_nil]
    exact Tables.outbox_setOutbox_of_ne _ _ different

end OutboxSettings

/-- What a hook leaves in the log: only a trigger that fails leaves something. -/
def Hook.error? : Hook → Option Error
  | .schedule .broken => some (.internal "trigger failed")
  | _ => none

namespace Journal

theorem runHook_eq (j : Journal) (hook : Hook) :
    j.runHook hook = ⟨j.ran ++ [hook], j.logged ++ hook.error?.toList⟩ := by
  cases hook with
  | schedule trigger => cases trigger <;> simp [runHook, Hook.error?, Trigger.schedule]
  | callback => simp [runHook, Hook.error?]

/-- Every hook runs, whatever becomes of those before it. -/
theorem runHooks_eq (j : Journal) (hooks : List Hook) :
    j.runHooks hooks = ⟨j.ran ++ hooks, j.logged ++ hooks.filterMap Hook.error?⟩ := by
  induction hooks generalizing j with
  | nil => simp [runHooks]
  | cons hook rest ih =>
    rw [runHooks, ih, runHook_eq]
    cases failed : hook.error? <;> simp [failed]

end Journal

namespace Store

@[simp] theorem commit_ran (s : Store) (u : UnitOfWork) : (s.commit u).ran = s.ran ++ u.hooks := by
  rw [commit, Journal.runHooks_eq]

@[simp] theorem commit_logged (s : Store) (u : UnitOfWork) :
    (s.commit u).logged = s.logged ++ u.hooks.filterMap Hook.error? := by
  rw [commit, Journal.runHooks_eq]

/-- A unit without hooks that is committed. -/
theorem commit_of_no_hooks (s : Store) {u : UnitOfWork} (none : u.hooks = []) :
    s.commit u = { s with tables := u.tables, serial := u.serial } := by
  rw [commit, none, Journal.runHooks]

end Store

theorem Store.atomic_ok {α : Type} {work : Work α} {s : Store} {a : α} {u : UnitOfWork}
    (run : work.run s.begin = (.ok a, u)) : s.atomic work = (.ok a, s.commit u) := by
  simp only [atomic, run]

theorem Store.atomic_error {α : Type} {work : Work α} {s : Store} {e : Error} {u : UnitOfWork}
    (run : work.run s.begin = (.error e, u)) : s.atomic work = (.error e, s.rollback u) := by
  simp only [atomic, run]

/-- What is made of the result of a unit has no part in it. -/
theorem Store.atomic_map_ok {α β : Type} (g : α → β) {work : Work α} {s : Store} {a : α}
    {u : UnitOfWork} (run : work.run s.begin = (.ok a, u)) :
    s.atomic (g <$> work) = (.ok (g a), s.commit u) :=
  atomic_ok ((Stateful.run_map g work s.begin).trans (by rw [run]; rfl))

theorem Store.atomic_map_error {α β : Type} (g : α → β) {work : Work α} {s : Store} {e : Error}
    {u : UnitOfWork} (run : work.run s.begin = (.error e, u)) :
    s.atomic (g <$> work) = (.error e, s.rollback u) :=
  atomic_error ((Stateful.run_map g work s.begin).trans (by rw [run]; rfl))

/-- A write to one outbox table as a transaction of its own. -/
theorem Store.atomic_onOutbox {α β : Type} (s : Store) (table : OutboxTable)
    (operation : OutboxRows → Except Error (α × OutboxRows)) (g : α → β) :
    s.atomic (g <$> Work.onOutbox table operation) =
      match operation (s.tables.outbox table) with
      | .error e => (.error e, s)
      | .ok (a, rows) => (.ok (g a), { s with tables := s.tables.setOutbox table rows }) := by
  cases result : operation (s.tables.outbox table) with
  | error e =>
    have run : (g <$> Work.onOutbox table operation).run s.begin =
        (.error e, { s.begin with isAborted := true }) := by
      rw [Stateful.run_map, Work.run_onOutbox _ _ rfl]
      simp only [begin, result, Except.map]
    exact Store.atomic_error run
  | ok value =>
    obtain ⟨a, rows⟩ := value
    have run : (g <$> Work.onOutbox table operation).run s.begin =
        (.ok (g a), { s.begin with tables := s.tables.setOutbox table rows }) := by
      rw [Stateful.run_map, Work.run_onOutbox _ _ rfl]
      simp only [begin, result, Except.map]
    rw [Store.atomic_ok run, Store.commit_of_no_hooks s rfl]
    rfl

end OutboxRelay
