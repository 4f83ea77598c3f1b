import OutboxRelay.Proofs.BatchEvents
import OutboxRelay.Proofs.FileStep

namespace OutboxRelay

@[simp] theorem Tables.batches_setOutbox (t : Tables) (table : OutboxTable) (rows : List OutboxEntry) :
    (t.setOutbox table rows).batches = t.batches := by
  cases table <;> rfl

/-- No entry is the event of a batch, unless the call emits one as it is. -/
def Transaction.Untold (x : Transaction) (entries : List OutboxEntry) : Prop :=
  ∀ entry ∈ entries, entry.eventType = batchFinalized →
    ∃ event ∈ x.call.events, entry.idempotencyKey = event.resolvedKey

namespace Tables

/-- What one call can do to batches: `emitted` are the entries that it puts into each outbox. The event
of a batch that is finalized is put there unless it is there already; that is known if the next
identifier is not in use. -/
inductive BatchStep (x : Transaction) (t : Tables) (serial : Nat) (t' : Tables) (serial' : Nat)
    (emitted : OutboxTable → List OutboxEntry) : Prop
  | quiet : t'.batches = t.batches → (∀ table, x.Untold (emitted table)) →
      BatchStep x t serial t' serial' emitted
  | created {batch : UploadBatch} : (∃ createdBy key, x.call = .createBatch createdBy key) →
      batch.id = Uuid.ofSerial serial → serial < serial' →
      t'.batches = t.batches ++ [batch] → (∀ table, x.Untold (emitted table)) →
      BatchStep x t serial t' serial' emitted
  | started {batch : UploadBatch} : x.call = .startBatch batch.id →
      t.batch? batch.id = some batch → batch.status = .init →
      t'.batches = (t.setBatch (batch.moved .inProgress x.now)).batches →
      (∀ table, x.Untold (emitted table)) → BatchStep x t serial t' serial' emitted
  | finalized {batch : UploadBatch} : x.call = .finalizeBatch batch.id →
      t.batch? batch.id = some batch → t.derivedStatus batch.id ≠ batch.status →
      t'.batches = (t.setBatch (batch.moved (t.derivedStatus batch.id) x.now)).batches →
      serial < serial' →
      (∀ table, (∀ row ∈ t.outbox table, row.id ≠ Uuid.ofSerial serial) → emitted table =
        if x.db.uploads.outbox.table = table ∧
            OutboxRows.hasKey (t.outbox table) batchFinalized
              (batch.id.batchKey (t.derivedStatus batch.id)) = false then
          [x.db.uploads.outbox.newEntry (Uuid.ofSerial serial) (t.finalization batch) x.now]
        else []) → BatchStep x t serial t' serial' emitted

end Tables

theorem OutboxSettings.batches_of_emit {settings : OutboxSettings} {now : Instant}
    {event : NewOutboxEvent} {u v : UnitOfWork} {result : Except Error OutboxEntry}
    (run : (settings.emit now event).run u = (result, v)) : v.tables.batches = u.tables.batches :=
  congrArg (fun t => t.batches) ((settings.emit_keeps Tables.uploads_setOutbox now event).eq run)

/-- An emission takes an identifier, whatever comes of it. -/
theorem OutboxSettings.serial_of_emit {settings : OutboxSettings} {now : Instant}
    {event : NewOutboxEvent} {u v : UnitOfWork} {result : Except Error OutboxEntry}
    (run : (settings.emit now event).run u = (result, v)) : v.serial = u.serial + 1 := by
  rw [← settings.serial_emit now event u, run]

/-- An event is refused as a duplicate if its key is there. -/
theorem OutboxSettings.hasKey_of_duplicate {settings : OutboxSettings} {now : Instant}
    {event : NewOutboxEvent} {u v : UnitOfWork} {e : Error}
    (unused : ∀ row ∈ u.tables.outbox settings.table, row.id ≠ Uuid.ofSerial u.serial)
    (refused : (settings.emit now event).run u = (.error e, v)) (duplicate : e.isDuplicateEvent = true) :
    OutboxRows.hasKey (u.tables.outbox settings.table) event.eventType event.resolvedKey = true := by
  obtain ⟨type, key, rfl⟩ := Error.isDuplicateEvent_iff.mp duplicate
  obtain ⟨_, _, taken⟩ := insertEntry_eq_duplicate_iff.mp
    ((emit_eq_duplicate_iff (usable_of_duplicate refused) refused).mp rfl)
  obtain ⟨_, row, member, same | same⟩ := OutboxRows.insert_eq_unique_iff.mp taken
  · refine List.any_eq_true.mpr ⟨row, member, ?_⟩
    rw [Bool.and_eq_true, decide_eq_true_eq, decide_eq_true_eq]
    exact same
  · exact absurd same (unused row member)

namespace Store
variable {s : Store} {x : Transaction}

/-- What a call does to batches, with what it emits, is one of the things of `Tables.BatchStep`. -/
def StepsBatches (s : Store) (x : Transaction) : Prop :=
  s.tables.BatchStep x s.serial (s.perform x).2.tables (s.perform x).2.serial
    fun table => s.emissions table x

theorem stepsBatches_of_untold {reply : Except Error Reply} {u : UnitOfWork}
    (performed : s.perform x = (reply, s.commit u)) (batches : u.tables.batches = s.tables.batches)
    (untold : ∀ table, x.Untold (s.emissions table x)) : s.StepsBatches x := by
  rw [StepsBatches, performed]
  exact .quiet batches untold

/-- What a call leaves of the outboxes that emits nothing. -/
theorem untold_of_kept {reply : Except Error Reply} {u : UnitOfWork}
    (performed : s.perform x = (reply, s.commit u)) (adds : s.EmitsAdded x)
    (kept : ∀ table, u.tables.outbox table = s.tables.outbox table) (table : OutboxTable) :
    x.Untold (s.emissions table x) := by
  have silent : s.emissions table x = [] := adds.emissions (by
    rw [performed]
    exact (kept table).trans (List.append_nil _).symm)
  rw [silent]
  exact List.forall_mem_nil _

theorem stepsBatches_of_kept {reply : Except Error Reply} {u : UnitOfWork}
    (performed : s.perform x = (reply, s.commit u)) (adds : s.EmitsAdded x)
    (kept : ∀ table, u.tables.outbox table = s.tables.outbox table)
    (batches : u.tables.batches = s.tables.batches) : s.StepsBatches x :=
  stepsBatches_of_untold performed batches (untold_of_kept performed adds kept)

/-- A call that emits an event, but not of a batch. -/
theorem stepsBatches_of_emit {reply : Except Error Reply} {between u : UnitOfWork}
    {event : NewOutboxEvent} {entry : OutboxEntry}
    (performed : s.perform x = (reply, s.commit u)) (adds : s.EmitsAdded x)
    (kept : ∀ table, between.tables.outbox table = s.tables.outbox table)
    (batches : between.tables.batches = s.tables.batches)
    (emitted : (x.db.uploads.outbox.emit x.now event).run between = (.ok entry, u))
    (other : event.eventType ≠ batchFinalized) : s.StepsBatches x := by
  refine stepsBatches_of_untold performed
    ((OutboxSettings.batches_of_emit emitted).trans batches) fun table => ?_
  have shown : s.emissions table x =
      if x.db.uploads.outbox.table = table then [entry] else [] := adds.emissions (by
    rw [performed]
    exact (OutboxSettings.emit_rows emitted table).trans (congrArg (· ++ _) (kept table)))
  rw [shown]
  split
  · refine List.forall_mem_singleton.mpr fun ofBatch => absurd ?_ other
    rw [← ofBatch, (OutboxSettings.emit_eq_ok emitted).1]
    rfl
  · exact List.forall_mem_nil _

theorem stepsBatches_of_transitionFile {db : Database} {now : Instant} {call : Call} {target : Uuid}
    {sources : List FileStatus} {status : FileStatus} {message eventType : Option String}
    {moved : UploadFile} {reply : Except Error Reply} {u : UnitOfWork}
    (run : (db.uploads.transitionFile now target sources status message eventType :
      Work UploadFile).run s.begin = (.ok moved, u))
    (performed : s.perform ⟨db, now, call⟩ = (reply, s.commit u))
    (adds : s.EmitsAdded ⟨db, now, call⟩) (other : ∀ type ∈ eventType, type ≠ batchFinalized) :
    s.StepsBatches ⟨db, now, call⟩ := by
  obtain ⟨old, _, _, _, rest⟩ := UploadSettings.transitionFile_eq_ok run
  cases eventType with
  | none =>
    refine stepsBatches_of_kept performed adds (fun table => ?_) (by rw [rest]; rfl)
    rw [rest]
    exact Tables.outbox_congr rfl rfl table
  | some type =>
    obtain ⟨entry, emitted⟩ := rest
    exact stepsBatches_of_emit performed adds (Tables.outbox_congr rfl rfl) rfl emitted
      (other type rfl)

/-- What is told of a batch that gets another status: its event, unless it is there already. -/
theorem finalization_rows {settings : OutboxSettings} {now : Instant} {batch : UploadBatch}
    {t : Tables} {u v : UnitOfWork} {result : Except Error OutboxEntry} {table : OutboxTable}
    {rows : OutboxRows} (begun : u.tables.outbox table = rows)
    (unused : ∀ row ∈ rows, row.id ≠ Uuid.ofSerial u.serial)
    (announced : UploadSettings.absorbed result = .ok ())
    (emitted : (settings.emit now (t.finalization batch)).run u = (result, v)) :
    v.tables.outbox table = rows ++
      if settings.table = table ∧
          rows.hasKey batchFinalized (batch.id.batchKey (t.derivedStatus batch.id)) = false then
        [settings.newEntry (Uuid.ofSerial u.serial) (t.finalization batch) now]
      else [] := by
  subst begun
  have key : (t.finalization batch).resolvedKey = batch.id.batchKey (t.derivedStatus batch.id) :=
    BatchStatus.event_key _ _ _ _
  by_cases target : settings.table = table
  · subst target
    rcases result with e | entry
    · have taken := OutboxSettings.hasKey_of_duplicate unused emitted
        (UploadSettings.absorbed_error_eq_ok_iff.mp announced)
      rw [key] at taken
      have kept := OutboxSettings.tables_of_emit_duplicate
        (UploadSettings.absorbed_error_eq_ok_iff.mp announced) emitted
      rw [if_neg (fun free => absurd (free.2.symm.trans taken) Bool.false_ne_true), kept,
        List.append_nil]
    · obtain ⟨isEntry, rows, inserted, _⟩ := OutboxSettings.emit_eq_ok emitted
      have free := OutboxRows.hasKey_eq_false_iff.mpr (OutboxRows.insert_eq_ok_iff.mp inserted).2.1
      have isKey : entry.idempotencyKey = batch.id.batchKey (t.derivedStatus batch.id) := by
        rw [isEntry]
        exact key
      have isType : entry.eventType = batchFinalized := by
        rw [isEntry]
        rfl
      rw [isKey, isType] at free
      rw [OutboxSettings.emit_rows emitted, if_pos rfl, if_pos ⟨rfl, free⟩, isEntry]
  · rw [if_neg fun free => target free.1, List.append_nil]
    rcases result with e | entry
    · rw [OutboxSettings.tables_of_emit_duplicate
        (UploadSettings.absorbed_error_eq_ok_iff.mp announced) emitted]
    · rw [OutboxSettings.emit_rows emitted, if_neg target, List.append_nil]

theorem stepsBatches_of_finalizeBatch {db : Database} {now : Instant} {id : Uuid}
    {status : BatchStatus} {reply : Except Error Reply} {u : UnitOfWork}
    (run : (db.uploads.finalizeBatch now id : Work BatchStatus).run s.begin = (.ok status, u))
    (performed : s.perform ⟨db, now, .finalizeBatch id⟩ = (reply, s.commit u)) :
    s.StepsBatches ⟨db, now, .finalizeBatch id⟩ := by
  obtain ⟨batch, rfl, found, rfl, ⟨_, isUnit⟩ | ⟨changed, result, announced, emitted⟩⟩ :=
    UploadSettings.finalizeBatch_eq_ok run
  · subst isUnit
    exact stepsBatches_of_kept performed (fun _ => rfl) (fun _ => rfl) rfl
  · have adds : s.EmitsAdded ⟨db, now, .finalizeBatch batch.id⟩ := fun _ => rfl
    have taken : s.serial < u.serial := by
      have run := OutboxSettings.serial_of_emit emitted
      exact run ▸ Nat.lt_succ_self _
    rw [StepsBatches, performed]
    refine .finalized rfl found changed (OutboxSettings.batches_of_emit emitted) taken
      fun table unused => adds.emissions ?_
    rw [performed]
    exact finalization_rows (Tables.outbox_congr rfl rfl table) unused announced emitted

/-- Every call steps batches. -/
theorem perform_batches (s : Store) (x : Transaction) : s.StepsBatches x := by
  rcases s.perform_cases x with ⟨e, failed, kept, _⟩ | ⟨reply, u, run, performed, rising⟩
  · refine .quiet (by rw [kept]) fun table => ?_
    rw [emissions_of_error failed kept]
    exact List.forall_mem_nil _
  obtain ⟨db, now, call⟩ := x
  have batches : Work.Keeps Tables.uploads (call.run db now) → u.tables.batches = s.tables.batches :=
    fun keeps => congrArg (fun t => t.batches) (keeps.eq run)
  cases call with
  | emit event =>
    exact stepsBatches_of_untold performed
      (batches ((db.outbox.emit_keeps Tables.uploads_setOutbox now event).map _))
      fun table entry member _ => keys_of_emit db now event table entry member
  | emitAll events =>
    exact stepsBatches_of_untold performed
      (batches ((db.outbox.emitAll_keeps Tables.uploads_setOutbox now events).map _))
      fun table entry member _ => keys_of_emitAll db now events table entry member
  | fetchDue | release | applyTransitions | cleanup | requeueFailed =>
    -- nothing is emitted
    exact stepsBatches_of_untold performed (batches (Call.run_keeps Tables.uploads_setOutbox rfl db now))
      fun _ => List.forall_mem_nil _
  | createEndpoint request =>
    obtain ⟨_, done, _⟩ := Stateful.run_map_eq_ok run
    rw [registerEndpoint, Work.freshId_part, Work.run_freshId_bind] at done
    obtain ⟨_, rfl⟩ := Work.onEndpoints_eq_ok done
    exact stepsBatches_of_kept performed (fun _ => rfl) (Tables.outbox_congr rfl rfl) rfl
  | updateEndpoint | deleteEndpoint =>
    obtain ⟨_, done, _⟩ := Stateful.run_map_eq_ok run
    obtain ⟨_, rfl⟩ := Work.onEndpoints_eq_ok done
    exact stepsBatches_of_kept performed (fun _ => rfl) (Tables.outbox_congr rfl rfl) rfl
  | createBatch createdBy key =>
    obtain ⟨_, created, _⟩ := Stateful.run_map_eq_ok run
    obtain ⟨isNew, _, rfl⟩ := UploadSettings.createBatch_eq_ok created
    have untold := untold_of_kept performed (fun _ => rfl) (Tables.outbox_congr rfl rfl)
    rw [StepsBatches, performed]
    exact .created ⟨createdBy, key, rfl⟩ isNew (Nat.lt_succ_self _) rfl untold
  | startBatch id =>
    obtain ⟨_, started, _⟩ := Stateful.run_map_eq_ok run
    obtain ⟨batch, found, status, rfl, rfl⟩ := UploadSettings.startBatch_eq_ok started
    have untold := untold_of_kept performed (fun _ => rfl) (Tables.outbox_congr rfl rfl)
    cases Tables.id_of_batch? found
    rw [StepsBatches, performed]
    exact .started rfl found status rfl untold
  | finalizeBatch id =>
    obtain ⟨_, finalized, _⟩ := Stateful.run_map_eq_ok run
    exact stepsBatches_of_finalizeBatch finalized performed
  | createFile request =>
    obtain ⟨file, created, _⟩ := Stateful.run_map_eq_ok run
    obtain ⟨_, _, _, between, rfl, rest⟩ := UploadSettings.createFile_eq_ok created
    split at rest
    · obtain ⟨_, emitted⟩ := rest
      exact stepsBatches_of_emit performed (fun _ => rfl) (Tables.outbox_congr rfl rfl) rfl emitted
        (show fileFailed ≠ batchFinalized by decide)
    · refine stepsBatches_of_kept performed (fun _ => rfl) (fun table => ?_) (by rw [rest]; rfl)
      rw [rest]
      exact Tables.outbox_congr rfl rfl table
  | markFileStored file | markFileProcessed file | markFileDeleted file =>
    obtain ⟨_, moved, _⟩ := Stateful.run_map_eq_ok run
    exact stepsBatches_of_transitionFile moved performed (fun _ => rfl) (by decide)
  | markFileFailed file message =>
    obtain ⟨_, moved, _⟩ := Stateful.run_map_eq_ok run
    exact stepsBatches_of_transitionFile moved performed (fun _ => rfl) (by decide)
  | createSession token file total chunk =>
    obtain ⟨_, created, _⟩ := Stateful.run_map_eq_ok run
    obtain ⟨_, _, _, _, _, _, _, _, _, _, rfl⟩ := UploadSettings.createSession_eq_ok created
    exact stepsBatches_of_kept performed (fun _ => rfl) (Tables.outbox_congr rfl rfl) rfl
  | recordPart session part =>
    obtain ⟨_, done, _⟩ := Stateful.run_map_eq_ok run
    obtain ⟨_, _, _, _, _, _, _, _, _, _, _, _, _, rfl⟩ := UploadSettings.recordPart_eq_ok done
    exact stepsBatches_of_kept performed (fun _ => rfl) (Tables.outbox_congr rfl rfl) rfl
  | completeSession session =>
    obtain ⟨_, done, _⟩ := Stateful.run_map_eq_ok run
    obtain ⟨_, _, _, _, _, _, rest⟩ := UploadSettings.completeSession_eq_ok done
    rcases rest with ⟨_, _, _, _, emitted⟩ | ⟨_, rfl⟩
    · exact stepsBatches_of_emit performed (fun _ => rfl) (Tables.outbox_congr rfl rfl) rfl emitted
        (show fileStored ≠ batchFinalized by decide)
    · exact stepsBatches_of_kept performed (fun _ => rfl) (Tables.outbox_congr rfl rfl) rfl
  | abortSession session | failSession session =>
    obtain ⟨_, done, _⟩ := Stateful.run_map_eq_ok run
    obtain ⟨_, _, _, _, rfl⟩ := UploadSettings.terminateSession_eq_ok done
    exact stepsBatches_of_kept performed (fun _ => rfl) (Tables.outbox_congr rfl rfl) rfl
  | cleanupFiles cutoff limit =>
    obtain ⟨_, done, _⟩ := Stateful.run_map_eq_ok run
    rcases UploadSettings.cleanupExpiredFiles_eq_ok done with rfl | ⟨ids, rfl⟩
    · exact stepsBatches_of_kept performed (fun _ => rfl) (fun _ => rfl) rfl
    · exact stepsBatches_of_kept performed (fun _ => rfl) (Tables.outbox_congr rfl rfl) rfl

end Store

end OutboxRelay
