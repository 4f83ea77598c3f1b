import OutboxRelay.Proofs.RowCalls
import OutboxRelay.Proofs.UploadEmission

namespace OutboxRelay

/-- A call through a handle on the store, with the time at which it is made. -/
structure Transaction where
  db : Database := {}
  now : Instant
  call : Call

namespace Store

/-- Makes a call. What it is made of takes effect one after the other. -/
def perform (s : Store) (x : Transaction) : Except Error Reply × Store :=
  (x.call.run x.db x.now : Access Reply).run s

theorem perform_eq (s : Store) (x : Transaction) :
    s.perform x = s.atomic (x.call.run x.db x.now) := Call.run_isUnit x.now x.db x.call s

theorem perform_of_ok {s : Store} {x : Transaction} {reply : Reply} {u : UnitOfWork}
    (run : (x.call.run x.db x.now : Work Reply).run s.begin = (.ok reply, u)) :
    s.perform x = (.ok reply, s.commit u) := by
  rw [perform_eq, atomic_ok run]

theorem perform_of_error {s : Store} {x : Transaction} {e : Error} {u : UnitOfWork}
    (run : (x.call.run x.db x.now : Work Reply).run s.begin = (.error e, u)) :
    s.perform x = (.error e, s.rollback u) := by
  rw [perform_eq, atomic_error run]

section
variable {α : Type} {g : α → Reply} {w : Work α} {s : Store} {x : Transaction} {u : UnitOfWork}

theorem perform_map_ok (isCall : x.call.run x.db x.now = g <$> w) {a : α}
    (run : w.run s.begin = (.ok a, u)) : s.perform x = (.ok (g a), s.commit u) := by
  refine perform_of_ok ?_
  rw [isCall, Stateful.run_map, run]
  rfl

theorem perform_map_error (isCall : x.call.run x.db x.now = g <$> w) {e : Error}
    (run : w.run s.begin = (.error e, u)) : s.perform x = (.error e, s.rollback u) := by
  refine perform_of_error ?_
  rw [isCall, Stateful.run_map, run]
  rfl

end

/-- A call on an outbox is a single write to its rows. -/
theorem perform_onOutbox {α : Type} {w : Work α} {g : α → Reply} (s : Store) {x : Transaction}
    {operation : OutboxRows → Except Error (α × OutboxRows)}
    (run : x.call.run x.db x.now = g <$> w) (acts : w.ActsAs x.db.outbox.table operation) :
    s.perform x = s.atomic (g <$> Work.onOutbox x.db.outbox.table operation) := by
  rw [perform_eq, run, acts.atomic_map]

section Outbox
variable (s : Store) (db : Database) (now : Instant)

theorem perform_fetchDue (time : Instant) (limit : Int) (lease : Period) :
    s.perform ⟨db, now, .fetchDue time limit lease⟩ =
      s.atomic (Reply.entries <$> Work.onOutbox db.outbox.table fun rows =>
        rows.fetchDue time limit lease now) :=
  s.perform_onOutbox rfl (db.outbox.table.fetchDue_actsAs now time limit lease)

theorem perform_release (entries : List OutboxEntry) :
    s.perform ⟨db, now, .release entries⟩ =
      s.atomic (Reply.count <$> Work.onOutbox db.outbox.table fun rows =>
        rows.release entries now) :=
  s.perform_onOutbox rfl (db.outbox.table.release_actsAs now entries)

theorem perform_applyTransitions (transitions : List EntryTransition) :
    s.perform ⟨db, now, .applyTransitions transitions⟩ =
      s.atomic (Reply.ids <$> Work.onOutbox db.outbox.table fun rows =>
        rows.applyTransitions transitions now) :=
  s.perform_onOutbox rfl (db.outbox.table.applyTransitions_actsAs now transitions)

theorem perform_cleanup (cutoff : Instant) (limit : Int) :
    s.perform ⟨db, now, .cleanup cutoff limit⟩ =
      s.atomic (Reply.cleaned <$> Work.onOutbox db.outbox.table fun rows =>
        rows.cleanup cutoff limit) :=
  s.perform_onOutbox rfl (db.outbox.table.cleanup_actsAs cutoff limit)

theorem perform_requeueFailed (ids : List Uuid) (due : Instant) :
    s.perform ⟨db, now, .requeueFailed ids due⟩ =
      s.atomic (Reply.count <$> Work.onOutbox db.outbox.table fun rows =>
        rows.requeueFailed ids due now) :=
  s.perform_onOutbox rfl (db.outbox.table.requeueFailed_actsAs now ids due)

end Outbox

/-- The store after a run of calls, whether they succeeded or not. -/
def after (s : Store) (run : List Transaction) : Store :=
  run.foldl (fun s x => (s.perform x).2) s

@[simp] theorem after_nil (s : Store) : s.after [] = s := rfl

@[simp] theorem after_cons (s : Store) (x : Transaction) (rest : List Transaction) :
    s.after (x :: rest) = (s.perform x).2.after rest := rfl

theorem after_append (s : Store) (first second : List Transaction) :
    s.after (first ++ second) = (s.after first).after second :=
  List.foldl_append

/-- The rows of an outbox table. -/
def rows (s : Store) (table : OutboxTable) : OutboxRows := s.tables.outbox table

end Store

/-- The entries that a call fetched from an outbox table. -/
def Transaction.fetched (x : Transaction) (table : OutboxTable) :
    Except Error Reply → List OutboxEntry
  | .ok (.entries entries) =>
    match x.call with
    | .fetchDue _ _ _ => if x.db.outbox.table = table then entries else []
    | _ => []
  | _ => []

theorem Transaction.fetched_eq_nil {x : Transaction} {table : OutboxTable}
    {reply : Except Error Reply} (other : ∀ time limit lease, x.call ≠ .fetchDue time limit lease) :
    x.fetched table reply = [] := by
  unfold fetched
  split
  · split
    · rename_i call
      exact absurd call (other _ _ _)
    · rfl
  · rfl

namespace OutboxRows

/-- What one call can do to an outbox table: `entries` are those it fetched from it, and `serial`
counts the identifiers that are in use. -/
inductive Step (table : OutboxTable) (x : Transaction) (rows : OutboxRows) (serial : Nat) :
    List OutboxEntry → OutboxRows → Nat → Prop
  | emitted {rows' serial'} : Emitted rows serial rows' serial' →
      Step table x rows serial [] rows' serial'
  | fetched {time limit lease entries rows'} : x.db.outbox.table = table →
      x.call = .fetchDue time limit lease →
      rows.fetchDue time limit lease x.now = .ok (entries, rows') →
      Step table x rows serial entries rows' serial
  | released {entries count rows'} : x.db.outbox.table = table → x.call = .release entries →
      rows.release entries x.now = .ok (count, rows') → Step table x rows serial [] rows' serial
  | settled {transitions ids rows'} : x.db.outbox.table = table →
      x.call = .applyTransitions transitions →
      rows.applyTransitions transitions x.now = .ok (ids, rows') →
      Step table x rows serial [] rows' serial
  | cleaned {cutoff limit stats rows'} : x.db.outbox.table = table →
      x.call = .cleanup cutoff limit → rows.cleanup cutoff limit = .ok (stats, rows') →
      Step table x rows serial [] rows' serial
  | requeued {ids due count rows'} : x.db.outbox.table = table →
      x.call = .requeueFailed ids due → rows.requeueFailed ids due x.now = .ok (count, rows') →
      Step table x rows serial [] rows' serial

theorem Step.serial_le {table : OutboxTable} {x : Transaction} {rows rows' : OutboxRows}
    {entries : List OutboxEntry} {serial serial' : Nat}
    (step : Step table x rows serial entries rows' serial') : serial ≤ serial' := by
  cases step with
  | emitted emitted => exact emitted.serial_le
  | _ => exact Nat.le_refl _

end OutboxRows

namespace Store
variable {table : OutboxTable}

/-- A unit that only emits, as a transaction. -/
theorem atomic_emitted {α : Type} {work : Work α} (s : Store) (emits : Work.Emits table work) :
    OutboxRows.Emitted (s.rows table) s.serial ((s.atomic work).2.rows table)
      (s.atomic work).2.serial := by
  rcases run : work.run s.begin with ⟨e | a, u⟩
  · have used := (emits s.tables).serial_le s.begin rfl
    rw [run] at used
    rw [atomic_error run]
    exact .quiet used
  · rw [atomic_ok run]
    exact (emits s.tables).emitted s.begin u a rfl run

/-- A write to an outbox table, as a transaction: either it changes nothing in `table`, or `table`
is the one it writes to and the write succeeds. -/
theorem atomic_onOutbox_cases {α β : Type} (s : Store) (target table : OutboxTable)
    (operation : OutboxRows → Except Error (α × OutboxRows)) (g : α → β) :
    (∃ store, (s.atomic (g <$> Work.onOutbox target operation)).2 = store ∧
        store.rows table = s.rows table ∧ store.serial = s.serial ∧
        (target = table → ∃ e, (s.atomic (g <$> Work.onOutbox target operation)).1 = .error e)) ∨
      ∃ a rows, target = table ∧ operation (s.rows table) = .ok (a, rows) ∧
        s.atomic (g <$> Work.onOutbox target operation) =
          (.ok (g a), { s with tables := s.tables.setOutbox table rows }) := by
  rw [s.atomic_onOutbox]
  by_cases same : target = table
  · subst same
    cases result : operation (s.tables.outbox target) with
    | error e => exact .inl ⟨s, rfl, rfl, rfl, fun _ => ⟨e, rfl⟩⟩
    | ok value => exact .inr ⟨value.1, value.2, rfl, result, rfl⟩
  · refine .inl ⟨_, rfl, ?_, ?_, fun eq => absurd eq same⟩
    · cases operation (s.tables.outbox target) with
      | error e => rfl
      | ok value => exact Tables.outbox_setOutbox_of_ne _ _ same
    · cases operation (s.tables.outbox target) <;> rfl

theorem step_of_emits (s : Store) {x : Transaction}
    (other : ∀ time limit lease, x.call ≠ .fetchDue time limit lease)
    (emits : Work.Emits table (x.call.run x.db x.now)) :
    OutboxRows.Step table x (s.rows table) s.serial (x.fetched table (s.perform x).1)
      ((s.perform x).2.rows table) (s.perform x).2.serial := by
  rw [Transaction.fetched_eq_nil other, perform_eq]
  exact .emitted (s.atomic_emitted emits)

/-- A write other than a fetch, given what it does when it succeeds. -/
theorem step_of_write {α : Type} (s : Store) {x : Transaction}
    {operation : OutboxRows → Except Error (α × OutboxRows)} {g : α → Reply}
    (performed : s.perform x = s.atomic (g <$> Work.onOutbox x.db.outbox.table operation))
    (other : ∀ time limit lease, x.call ≠ .fetchDue time limit lease)
    (write : ∀ a rows, x.db.outbox.table = table → operation (s.rows table) = .ok (a, rows) →
      OutboxRows.Step table x (s.rows table) s.serial [] rows s.serial) :
    OutboxRows.Step table x (s.rows table) s.serial (x.fetched table (s.perform x).1)
      ((s.perform x).2.rows table) (s.perform x).2.serial := by
  rw [Transaction.fetched_eq_nil other, performed]
  obtain ⟨store, isStore, kept, serial, _⟩ | ⟨a, rows, same, result, written⟩ :=
    s.atomic_onOutbox_cases x.db.outbox.table table operation g
  · rw [isStore, kept, serial]
    exact .emitted (.quiet (Nat.le_refl _))
  · rw [written]
    simpa only [Store.rows, Tables.outbox_setOutbox] using write a rows same result

/-- The entries of a fetch are those that its reply shows, if it was one from this table. -/
theorem step_of_fetch (s : Store) (db : Database) (now time : Instant) (limit : Int)
    (lease : Period) :
    let x : Transaction := ⟨db, now, .fetchDue time limit lease⟩
    OutboxRows.Step table x (s.rows table) s.serial (x.fetched table (s.perform x).1)
      ((s.perform x).2.rows table) (s.perform x).2.serial := by
  intro x
  rw [s.perform_fetchDue db now time limit lease]
  obtain ⟨store, isStore, kept, serial, failed⟩ | ⟨entries, rows, same, result, performed⟩ :=
    s.atomic_onOutbox_cases db.outbox.table table
      (fun rows => OutboxRows.fetchDue rows time limit lease now) Reply.entries
  · have none : x.fetched table (s.atomic (Reply.entries <$> Work.onOutbox db.outbox.table
        fun rows => OutboxRows.fetchDue rows time limit lease now)).1 = [] := by
      by_cases same : db.outbox.table = table
      · obtain ⟨e, error⟩ := failed same
        rw [error]
        rfl
      · unfold Transaction.fetched
        split
        · exact if_neg same
        · rfl
    rw [none, isStore, kept, serial]
    exact .emitted (.quiet (Nat.le_refl _))
  · have all : x.fetched table (.ok (.entries entries)) = entries := if_pos same
    rw [performed, all]
    refine .fetched same rfl ?_
    simpa only [Store.rows, Tables.outbox_setOutbox] using result

/-- Every call does to an outbox table one of the things listed in `OutboxRows.Step`. -/
theorem perform_step (s : Store) (x : Transaction) (table : OutboxTable) :
    OutboxRows.Step table x (s.rows table) s.serial (x.fetched table (s.perform x).1)
      ((s.perform x).2.rows table) (s.perform x).2.serial := by
  obtain ⟨db, now, call⟩ := x
  cases call with
  | emit event => exact s.step_of_emits nofun ((db.outbox.emit_emits now event table).map _)
  | emitAll events => exact s.step_of_emits nofun ((db.outbox.emitAll_emits now events table).map _)
  | fetchDue time limit lease => exact s.step_of_fetch db now time limit lease
  | release entries => 
    exact s.step_of_write (s.perform_release db now entries) nofun fun _ _ same result =>
      .released same rfl result
  | applyTransitions transitions =>
    exact s.step_of_write (s.perform_applyTransitions db now transitions) nofun
      fun _ _ same result => .settled same rfl result
  | cleanup cutoff limit =>
    exact s.step_of_write (s.perform_cleanup db now cutoff limit) nofun fun _ _ same result =>
      .cleaned same rfl result
  | requeueFailed ids due =>
    exact s.step_of_write (s.perform_requeueFailed db now ids due) nofun fun _ _ same result =>
      .requeued same rfl result
  | createEndpoint request => exact s.step_of_emits nofun ((registerEndpoint_emits now request).map _)
  | updateEndpoint id change => exact s.step_of_emits nofun ((Work.onEndpoints_emits _).map _)
  | deleteEndpoint id => exact s.step_of_emits nofun ((Work.onEndpoints_emits _).map _)
  | createBatch createdBy key =>
    exact s.step_of_emits nofun ((UploadSettings.createBatch_emits now createdBy key).map _)
  | startBatch id => exact s.step_of_emits nofun ((UploadSettings.startBatch_emits now id).map _)
  | finalizeBatch id => exact s.step_of_emits nofun ((db.uploads.finalizeBatch_emits now id).map _)
  | createFile request => exact s.step_of_emits nofun ((db.uploads.createFile_emits now request).map _)
  | markFileStored id =>
    exact s.step_of_emits nofun ((db.uploads.transitionFile_emits now id _ _ _ _).map _)
  | markFileProcessed id =>
    exact s.step_of_emits nofun ((db.uploads.transitionFile_emits now id _ _ _ _).map _)
  | markFileFailed id message =>
    exact s.step_of_emits nofun ((db.uploads.transitionFile_emits now id _ _ _ _).map _)
  | markFileDeleted id =>
    exact s.step_of_emits nofun ((db.uploads.transitionFile_emits now id _ _ _ _).map _)
  | createSession token file total chunk =>
    exact s.step_of_emits nofun ((UploadSettings.createSession_emits now token file total chunk).map _)
  | recordPart session part =>
    exact s.step_of_emits nofun ((UploadSettings.recordPart_emits now session part).map _)
  | completeSession id =>
    exact s.step_of_emits nofun ((db.uploads.completeSession_emits now id).map _)
  | abortSession id =>
    exact s.step_of_emits nofun ((UploadSettings.terminateSession_emits now id .aborted).map _)
  | failSession id =>
    exact s.step_of_emits nofun ((UploadSettings.terminateSession_emits now id .failed).map _)
  | cleanupFiles cutoff limit =>
    exact s.step_of_emits nofun ((UploadSettings.cleanupExpiredFiles_emits cutoff limit).map _)

theorem serial_le_perform (s : Store) (x : Transaction) : s.serial ≤ (s.perform x).2.serial :=
  (s.perform_step x .core).serial_le

theorem serial_le_after (s : Store) (run : List Transaction) : s.serial ≤ (s.after run).serial := by
  induction run generalizing s with
  | nil => exact Nat.le_refl _
  | cons x rest ih => exact Nat.le_trans (s.serial_le_perform x) (ih _)

/-- A call either fails, and then all tables are as before, or is committed. -/
theorem perform_cases (s : Store) (x : Transaction) :
    (∃ e, (s.perform x).1 = .error e ∧ (s.perform x).2.tables = s.tables ∧
        s.serial ≤ (s.perform x).2.serial) ∨
      ∃ reply u, (x.call.run x.db x.now : Work Reply).run s.begin = (.ok reply, u) ∧
        s.perform x = (.ok reply, s.commit u) ∧ s.serial ≤ u.serial := by
  have rising := s.serial_le_perform x
  rcases run : (x.call.run x.db x.now : Work Reply).run s.begin with ⟨e | reply, u⟩
  · have failed : s.perform x = (.error e, s.rollback u) := perform_of_error run
    rw [failed] at rising ⊢
    exact .inl ⟨e, rfl, rfl, rising⟩
  · have done : s.perform x = (.ok reply, s.commit u) := perform_of_ok run
    rw [done] at rising
    exact .inr ⟨reply, u, rfl, done, rising⟩

end Store

end OutboxRelay
