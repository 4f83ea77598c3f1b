import OutboxRelay.Proofs.BatchStep

namespace OutboxRelay

/-- The event that tells of a status of a batch. -/
def OutboxEntry.announces (entry : OutboxEntry) (id : Uuid) (status : BatchStatus) : Bool :=
  entry.eventType = batchFinalized && entry.idempotencyKey = id.batchKey status

/-- The batch that a call is to finalize. -/
def Call.finalizing? : Call → Option Uuid
  | .finalizeBatch id => some id
  | _ => none

namespace Tables
variable {t t' : Tables} {id : Uuid} {serial serial' : Nat} {x : Transaction}
  {emitted : OutboxTable → List OutboxEntry}

def batchStatus? (t : Tables) (id : Uuid) : Option BatchStatus := (t.batch? id).map (·.status)

theorem batch?_congr (batches : t'.batches = t.batches) (id : Uuid) : t'.batch? id = t.batch? id := by
  rw [batch?, batches, batch?]

theorem batch?_setBatch (t : Tables) (batch : UploadBatch) (id : Uuid) :
    (t.setBatch batch).batch? id =
      (t.batch? id).map fun row => if row.id = batch.id then batch else row :=
  find?_replace UploadBatch.id t.batches batch id

theorem batch?_append_of_some {batch new : UploadBatch} (batches : t'.batches = t.batches ++ [new])
    (found : t.batch? id = some batch) : t'.batch? id = some batch := by
  rw [batch?] at found ⊢
  rw [batches, List.find?_append, found, Option.some_or]

/-- A batch stays. It is started only if it waits to be, and finalized only to another status. -/
theorem BatchStep.batch?_of_some (step : t.BatchStep x serial t' serial' emitted)
    {batch : UploadBatch} (found : t.batch? id = some batch) :
    ∃ new, t'.batch? id = some new ∧
      (new = batch ∨
        x.call = .startBatch id ∧ batch.status = .init ∧ new = batch.moved .inProgress x.now ∨
        x.call = .finalizeBatch id ∧ t.derivedStatus id ≠ batch.status ∧
          new = batch.moved (t.derivedStatus id) x.now) := by
  have isId := id_of_batch? found
  have write : ∀ {written : UploadBatch}, t'.batches = (t.setBatch written).batches →
      t'.batch? id = some (if id = written.id then written else batch) := by
    intro written batches
    rw [batch?_congr batches, batch?_setBatch, found, Option.map_some, isId]
  cases step with
  | quiet batches _ => exact ⟨batch, (batch?_congr batches id).trans found, .inl rfl⟩
  | created _ _ _ batches _ => exact ⟨batch, batch?_append_of_some batches found, .inl rfl⟩
  | @started row isCall there status batches _ =>
    by_cases same : row.id = id
    · subst same
      cases there.symm.trans found
      exact ⟨_, (write batches).trans (congrArg some (if_pos rfl)), .inr (.inl ⟨isCall, status, rfl⟩)⟩
    · exact ⟨batch, (write batches).trans (congrArg some (if_neg (Ne.symm same))), .inl rfl⟩
  | @finalized row isCall there changed batches _ _ =>
    by_cases same : row.id = id
    · subst same
      cases there.symm.trans found
      exact ⟨_, (write batches).trans (congrArg some (if_pos rfl)), .inr (.inr ⟨isCall, changed, rfl⟩)⟩
    · exact ⟨batch, (write batches).trans (congrArg some (if_neg (Ne.symm same))), .inl rfl⟩

/-- Batches have identifiers of their own, all given out before `serial`. -/
structure BatchesDistinct (t : Tables) (serial : Nat) : Prop where
  issued : ∀ batch ∈ t.batches, ∃ number < serial, batch.id = Uuid.ofSerial number
  ids : t.batches.Pairwise fun a b => a.id ≠ b.id

theorem BatchesDistinct.eq_of_id (distinct : t.BatchesDistinct serial) {a b : UploadBatch}
    (inA : a ∈ t.batches) (inB : b ∈ t.batches) (same : a.id = b.id) : a = b := by
  have symmetric : Std.Symm fun a b : UploadBatch => a.id ≠ b.id := ⟨fun _ _ ne => ne.symm⟩
  exact Classical.byContradiction fun different => distinct.ids.forall inA inB different same

theorem BatchesDistinct.setBatch (distinct : t.BatchesDistinct serial) (rising : serial ≤ serial')
    {batch : UploadBatch} (batches : t'.batches = (t.setBatch batch).batches) :
    t'.BatchesDistinct serial' := by
  have ids : ∀ row : UploadBatch, (if row.id = batch.id then batch else row).id = row.id := by
    intro row
    split
    · rename_i same
      exact same.symm
    · rfl
  constructor
  · rw [batches]
    refine List.forall_mem_map.mpr fun row member => ?_
    obtain ⟨number, before, same⟩ := distinct.issued row member
    exact ⟨number, Nat.lt_of_lt_of_le before rising, (ids row).trans same⟩
  · rw [batches]
    refine List.pairwise_map.mpr (distinct.ids.imp fun {a b} different same => different ?_)
    exact (ids a).symm.trans (same.trans (ids b))

theorem BatchesDistinct.step (distinct : t.BatchesDistinct serial)
    (step : t.BatchStep x serial t' serial' emitted) (rising : serial ≤ serial')
    (room : serial' ≤ 2 ^ 128) : t'.BatchesDistinct serial' := by
  have later : ∀ batch ∈ t.batches, ∃ number < serial', batch.id = Uuid.ofSerial number := by
    intro batch member
    obtain ⟨number, before, same⟩ := distinct.issued batch member
    exact ⟨number, by omega, same⟩
  cases step with
  | quiet batches _ => exact ⟨batches ▸ later, batches ▸ distinct.ids⟩
  | @created batch _ isNew taken batches _ =>
    constructor
    · rw [batches]
      exact List.forall_mem_append.mpr
        ⟨later, List.forall_mem_singleton.mpr ⟨serial, taken, isNew⟩⟩
    · rw [batches]
      refine List.pairwise_append.mpr ⟨distinct.ids, List.pairwise_singleton _ _, ?_⟩
      intro old member new isBatch same
      cases List.mem_singleton.mp isBatch
      obtain ⟨number, before, isOld⟩ := distinct.issued old member
      exact Uuid.ofSerial_ne before (by omega) (isOld.symm.trans (same.trans isNew))
  | started _ _ _ batches _ => exact distinct.setBatch rising batches
  | finalized _ _ _ batches _ _ => exact distinct.setBatch rising batches

/-- Only the status of the batch and the time of the write are set, if the status is another one. -/
theorem BatchesDistinct.setBatch_moved (distinct : t.BatchesDistinct serial) {batch : UploadBatch}
    (found : t.batch? batch.id = some batch) {status : BatchStatus} (changed : status ≠ batch.status)
    (now : Instant) : t.setBatch (batch.moved status now) = { t with
      batches := t.batches.map fun row =>
        if row.id = batch.id ∧ row.status ≠ status then row.moved status now else row } := by
  have there := List.mem_of_find?_eq_some found
  refine congrArg (fun batches => { t with batches }) (List.map_congr_left fun row member => ?_)
  by_cases same : row.id = batch.id
  · cases distinct.eq_of_id member there same
    exact (if_pos rfl).trans (if_pos ⟨rfl, changed.symm⟩).symm
  · exact (if_neg same).trans (if_neg fun both => same both.1).symm

theorem BatchesDistinct.map_same (distinct : t.BatchesDistinct serial) {batch : UploadBatch}
    (found : t.batch? batch.id = some batch) {status : BatchStatus} (same : status = batch.status)
    (now : Instant) : { t with
      batches := t.batches.map fun row =>
        if row.id = batch.id ∧ row.status ≠ status then row.moved status now else row } = t := by
  have there := List.mem_of_find?_eq_some found
  have all : (t.batches.map fun row =>
      if row.id = batch.id ∧ row.status ≠ status then row.moved status now else row) = t.batches := by
    refine (List.map_congr_left fun row member => ?_).trans (List.map_id _)
    refine if_neg fun ⟨isBatch, other⟩ => other ?_
    rw [distinct.eq_of_id member there isBatch, same]
  rw [all]

/-- In what order the files stand makes no difference. -/
theorem derivedStatus_perm {files : List UploadFile} (perm : files.Perm t.files) (id : Uuid) :
    { t with files }.derivedStatus id = t.derivedStatus id := by
  refine BatchStatus.ofFiles_perm (List.Perm.map _ ?_)
  exact ((List.mergeSort_perm _ _).trans (perm.filter _)).trans (List.mergeSort_perm _ _).symm

end Tables

/-- An event that an outbox can hold and read is put there, or refused as a duplicate. -/
theorem UnitOfWork.emit_of_storable {settings : OutboxSettings} {event : NewOutboxEvent}
    {u : UnitOfWork} (usable : u.isAborted = false) (limit : settings.Storable)
    (storable : event.Storable) (readable : event.resolvedPayload.readBack?.isSome = true)
    (now : Instant) :
    (settings.emit now event).run u =
        (.error (.duplicateEvent event.eventType event.resolvedKey), u.refusing) ∨
      (settings.emit now event).run u =
        (.ok (settings.newEntry (Uuid.ofSerial u.serial) event now), u.emitting settings now event) := by
  have accepted := OutboxSettings.newEntry_accepted limit storable (Uuid.ofSerial u.serial) now
  rw [settings.run_emit now event usable, OutboxSettings.insertEntry,
    if_neg (Bool.eq_false_iff.mp storable.payload), OutboxRows.insert, accepted]
  dsimp only
  split_ifs
  · exact .inl rfl
  · exact .inr (if_pos readable)

namespace Store
variable {s : Store} {x : Transaction} {id : Uuid}

theorem commit_begin (s : Store) : s.commit s.begin = s := s.commit_of_no_hooks rfl

theorem perform_finalizeBatch_missing (isCall : x.call = .finalizeBatch id)
    (none : s.tables.batch? id = none) :
    s.perform x = (.error (.notFound ("upload_batch " ++ id.text)), s) := by
  obtain ⟨db, now, call⟩ := x
  cases isCall
  exact perform_map_error rfl (UploadSettings.run_finalizeBatch_missing (u := s.begin) none)

theorem perform_finalizeBatch_same {batch : UploadBatch} (isCall : x.call = .finalizeBatch batch.id)
    (found : s.tables.batch? batch.id = some batch)
    (same : s.tables.derivedStatus batch.id = batch.status) :
    s.perform x = (.ok (.batchStatus (s.tables.derivedStatus batch.id)), s) := by
  obtain ⟨db, now, call⟩ := x
  cases isCall
  have performed : s.perform ⟨db, now, .finalizeBatch batch.id⟩ = _ :=
    perform_map_ok rfl (UploadSettings.run_finalizeBatch_same (u := s.begin) found same)
  exact performed.trans (congrArg _ s.commit_begin)

/-- A batch that gets another status is written, and its event is put into the outbox of the handle
or left out as a duplicate. -/
theorem perform_finalizeBatch_changed {batch : UploadBatch} (isCall : x.call = .finalizeBatch batch.id)
    (limit : x.db.uploads.outbox.Storable) (found : s.tables.batch? batch.id = some batch)
    (changed : s.tables.derivedStatus batch.id ≠ batch.status) :
    (s.perform x).1 = .ok (.batchStatus (s.tables.derivedStatus batch.id)) ∧
      ∃ announced : List OutboxEntry, announced.length ≤ 1 ∧
        (∀ entry ∈ announced, entry = x.db.uploads.outbox.newEntry (Uuid.ofSerial s.serial)
          (s.tables.finalization batch) x.now) ∧
        (s.perform x).2.tables =
          (s.tables.setBatch (batch.moved (s.tables.derivedStatus batch.id) x.now)).setOutbox
            x.db.uploads.outbox.table (s.rows x.db.uploads.outbox.table ++ announced) ∧
        (s.perform x).2.ran =
          s.ran ++ announced.map fun _ => .schedule x.db.uploads.outbox.trigger := by
  obtain ⟨db, now, call⟩ := x
  cases isCall
  let written : UnitOfWork := { s.begin with
    tables := s.tables.setBatch (batch.moved (s.tables.derivedStatus batch.id) now) }
  have kept : written.tables.outbox db.uploads.outbox.table = s.rows db.uploads.outbox.table :=
    Tables.outbox_congr rfl rfl _
  have perform : ∀ {result v}, (db.uploads.outbox.emit now (s.tables.finalization batch)).run written =
      (result, v) → UploadSettings.absorbed result = .ok () →
      s.perform ⟨db, now, .finalizeBatch batch.id⟩ =
        (.ok (.batchStatus (s.tables.derivedStatus batch.id)), s.commit v) := by
    intro result v emitted absorbed
    refine perform_map_ok rfl ?_
    rw [UploadSettings.run_finalizeBatch_changed (u := s.begin) found changed emitted, absorbed]
    rfl
  rcases UnitOfWork.emit_of_storable (u := written) rfl limit (BatchStatus.event_storable _ _ _ _)
    (Option.isSome_of_eq_some (BatchStatus.readBack?_event _ _ _ _)) now with refused | emitted
  · have performed := perform refused rfl
    rw [performed]
    refine ⟨rfl, [], Nat.zero_le 1, List.forall_mem_nil _, ?_, ?_⟩
    · rw [List.append_nil, ← kept, Tables.setOutbox_same]
      rfl
    · exact s.commit_ran _
  · have performed := perform emitted rfl
    rw [performed]
    refine ⟨rfl, [db.uploads.outbox.newEntry (Uuid.ofSerial s.serial) (s.tables.finalization batch)
      now], Nat.le_refl 1, fun entry member => List.mem_singleton.mp member, ?_, s.commit_ran _⟩
    rw [← kept]
    rfl

/-- A batch that is finalized never waits again, nor runs. -/
theorem after_finalized {batch : UploadBatch} (found : s.tables.batch? id = some batch)
    (status : batch.status ≠ .init ∧ batch.status ≠ .inProgress) (run : List Transaction) :
    ∃ later, (s.after run).tables.batch? id = some later ∧ later.status ≠ .init ∧
      later.status ≠ .inProgress := by
  induction run generalizing s batch with
  | nil => exact ⟨batch, found, status⟩
  | cons x rest ih =>
    obtain ⟨next, found', rfl | ⟨_, waiting, _⟩ | ⟨_, _, rfl⟩⟩ :=
      (s.perform_batches x).batch?_of_some found
    · exact ih found' status
    · exact absurd waiting status.1
    · exact ih found' ⟨BatchStatus.ofFiles_ne_init _, BatchStatus.ofFiles_ne_inProgress _⟩

/-- A batch that has the status that its files give it keeps it as long as they do not change. -/
theorem after_unchanged {batch : UploadBatch} {files : List FileStatus}
    (found : s.tables.batch? id = some batch) (status : batch.status = .ofFiles files)
    {run : List Transaction}
    (unchanged : ∀ front, front <+: run → (s.after front).tables.fileStatuses id = files) :
    ∃ later, (s.after run).tables.batch? id = some later ∧ later.status = .ofFiles files := by
  induction run generalizing s batch with
  | nil => exact ⟨batch, found, status⟩
  | cons x rest ih =>
    have others : ∀ front, front <+: rest →
        ((s.perform x).2.after front).tables.fileStatuses id = files :=
      fun front before => unchanged (x :: front) (List.prefix_cons_inj x |>.mpr before)
    obtain ⟨next, found', rfl | ⟨_, waiting, _⟩ | ⟨_, changed, rfl⟩⟩ :=
      (s.perform_batches x).batch?_of_some found
    · exact ih found' status others
    · exact absurd (status.symm.trans waiting) (BatchStatus.ofFiles_ne_init _)
    · have derived : s.tables.derivedStatus id = .ofFiles files :=
        congrArg BatchStatus.ofFiles (unchanged [] List.nil_prefix)
      exact absurd (derived.trans status.symm) changed

/-- What a call does that finalizes a batch. -/
structure Finalizes (s : Store) (x : Transaction) (batch : UploadBatch) : Prop where
  reply : (s.perform x).1 = .ok (.batchStatus (s.tables.derivedStatus batch.id))
  stored : (s.perform x).2.tables.batchStatus? batch.id = some (s.tables.derivedStatus batch.id)
  unordered : ∀ files, files.Perm s.tables.files →
    { s.tables with files }.derivedStatus batch.id = s.tables.derivedStatus batch.id
  written : ∃ announced : List OutboxEntry, announced.length ≤ 1 ∧
    (∀ entry ∈ announced, entry = x.db.uploads.outbox.newEntry (Uuid.ofSerial s.serial)
      (s.tables.finalization batch) x.now) ∧
    (s.perform x).2.tables = Tables.setOutbox
      { s.tables with
        batches := s.tables.batches.map fun row =>
          if row.id = batch.id ∧ row.status ≠ s.tables.derivedStatus batch.id then
            row.moved (s.tables.derivedStatus batch.id) x.now
          else row }
      x.db.uploads.outbox.table (s.rows x.db.uploads.outbox.table ++ announced) ∧
    (s.perform x).2.ran = s.ran ++ announced.map fun _ => .schedule x.db.uploads.outbox.trigger
  /-- Whatever happens in between, as long as the files of the batch do not change. -/
  again : ∀ (between : List Transaction) (y : Transaction), y.call = .finalizeBatch batch.id →
    (∀ front, front <+: between → ((s.perform x).2.after front).tables.fileStatuses batch.id =
      s.tables.fileStatuses batch.id) →
    ((s.perform x).2.after between).perform y =
      (.ok (.batchStatus (s.tables.derivedStatus batch.id)), (s.perform x).2.after between)

theorem finalizes {serial : Nat} (distinct : s.tables.BatchesDistinct serial) {batch : UploadBatch}
    (isCall : x.call = .finalizeBatch batch.id) (limit : x.db.uploads.outbox.Storable)
    (found : s.tables.batch? batch.id = some batch) : s.Finalizes x batch := by
  have again : ∀ {stored : UploadBatch}, (s.perform x).2.tables.batch? batch.id = some stored →
      stored.status = s.tables.derivedStatus batch.id →
      ∀ (between : List Transaction) (y : Transaction), y.call = .finalizeBatch batch.id →
        (∀ front, front <+: between → ((s.perform x).2.after front).tables.fileStatuses batch.id =
          s.tables.fileStatuses batch.id) →
        ((s.perform x).2.after between).perform y =
          (.ok (.batchStatus (s.tables.derivedStatus batch.id)), (s.perform x).2.after between) := by
    intro stored there status between y isCall' unchanged
    obtain ⟨later, found', status'⟩ := after_unchanged there status unchanged
    have isLater := Tables.id_of_batch? found'
    have derived : ((s.perform x).2.after between).tables.derivedStatus later.id =
        s.tables.derivedStatus batch.id := by
      rw [isLater, Tables.derivedStatus, unchanged between List.prefix_rfl, Tables.derivedStatus]
    rw [← derived]
    refine perform_finalizeBatch_same (isLater.symm ▸ isCall') (isLater.symm ▸ found') ?_
    rw [derived]
    exact status'.symm
  have unordered : ∀ files, files.Perm s.tables.files →
      { s.tables with files }.derivedStatus batch.id = s.tables.derivedStatus batch.id :=
    fun _ perm => Tables.derivedStatus_perm perm batch.id
  by_cases same : s.tables.derivedStatus batch.id = batch.status
  · have performed := perform_finalizeBatch_same isCall found same
    have stored : (s.perform x).2.tables.batch? batch.id = some batch := by
      rw [performed]
      exact found
    refine ⟨by rw [performed], ?_, unordered, ⟨[], Nat.zero_le 1, List.forall_mem_nil _, ?_, ?_⟩,
      again stored same.symm⟩
    · rw [Tables.batchStatus?, stored, same]
      rfl
    · rw [distinct.map_same found same, List.append_nil, performed]
      exact (Tables.setOutbox_same _ _).symm
    · rw [performed]
      exact (List.append_nil _).symm
  · obtain ⟨reply, announced, atMost, entries, tables, ran⟩ :=
      perform_finalizeBatch_changed isCall limit found same
    have stored : (s.perform x).2.tables.batch? batch.id =
        some (batch.moved (s.tables.derivedStatus batch.id) x.now) := by
      rw [tables, Tables.batch?_congr (Tables.batches_setOutbox _ _ _), Tables.batch?_setBatch, found]
      exact congrArg some (if_pos rfl)
    refine ⟨reply, ?_, unordered, ⟨announced, atMost, entries, ?_, ran⟩, again stored rfl⟩
    · rw [Tables.batchStatus?, stored]
      rfl
    · rw [← distinct.setBatch_moved found same]
      exact tables

/-- A batch can be started just if it waits to be. -/
theorem perform_startBatch_iff (isCall : x.call = .startBatch id) :
    (∃ reply, (s.perform x).1 = .ok reply) ↔
      ∃ batch, s.tables.batch? id = some batch ∧ batch.status = .init := by
  obtain ⟨db, now, call⟩ := x
  cases isCall
  constructor
  · rintro ⟨reply, done⟩
    rcases s.perform_cases ⟨db, now, .startBatch id⟩ with ⟨e, failed, _⟩ | ⟨reply', u, ran, _⟩
    · cases failed.symm.trans done
    · obtain ⟨_, started, _⟩ := Stateful.run_map_eq_ok ran
      obtain ⟨batch, found, status, _⟩ := UploadSettings.startBatch_eq_ok started
      exact ⟨batch, found, status⟩
  · rintro ⟨batch, found, status⟩
    have waiting : (s.begin.tables.batch? id).filter (·.status = .init) = some batch :=
      Option.filter_eq_some_iff.mpr ⟨found, decide_eq_true status⟩
    have started := UploadSettings.run_startBatch now id s.begin
    rw [waiting] at started
    exact ⟨_, congrArg Prod.fst (perform_map_ok rfl started)⟩

/-- The status to which a call takes a batch by finalizing it, through a handle that puts the events
of uploads into `table`. -/
def finalization? (s : Store) (table : OutboxTable) (id : Uuid) (x : Transaction) :
    Option BatchStatus :=
  if x.call.finalizing? = some id ∧ x.db.uploads.outbox.table = table ∧
      (s.perform x).2.tables.batchStatus? id ≠ s.tables.batchStatus? id then
    (s.perform x).2.tables.batchStatus? id
  else none

/-- The statuses to which the calls of a run take a batch by finalizing it. -/
def finalizations (s : Store) (table : OutboxTable) (id : Uuid) : List Transaction → List BatchStatus
  | [] => []
  | x :: rest => (s.finalization? table id x).toList ++ (s.perform x).2.finalizations table id rest

theorem finalizations_append (s : Store) (table : OutboxTable) (id : Uuid)
    (first second : List Transaction) : s.finalizations table id (first ++ second) =
      s.finalizations table id first ++ (s.after first).finalizations table id second := by
  induction first generalizing s with
  | nil => rfl
  | cons x rest ih =>
    rw [List.cons_append, finalizations, finalizations, ih, List.append_assoc, after_cons]

end Store

/-- A call that keeps away from the events of a batch in an outbox table: it cleans nothing up there,
and emits nothing under their keys as it is. -/
structure Transaction.SparesBatchEvents (x : Transaction) (table : OutboxTable) (id : Uuid) : Prop where
  cleanup : x.db.outbox.table = table → ∀ cutoff limit, x.call ≠ .cleanup cutoff limit
  emits : ∀ event ∈ x.call.events, ∀ status, event.resolvedKey ≠ id.batchKey status

namespace Store
variable {s : Store} {x : Transaction} {id : Uuid} {table : OutboxTable} {status : BatchStatus}

theorem countP_of_untold {entries : List OutboxEntry} (untold : x.Untold entries)
    (spares : x.SparesBatchEvents table id) (status : BatchStatus) :
    entries.countP (·.announces id status) = 0 := by
  refine List.countP_eq_zero.mpr fun entry member announces => ?_
  rw [OutboxEntry.announces, Bool.and_eq_true, decide_eq_true_eq, decide_eq_true_eq] at announces
  obtain ⟨event, there, key⟩ := untold entry member announces.1
  exact spares.emits event there status (key.symm.trans announces.2)

/-- The events of a batch in an outbox become more by those that a call emits. -/
theorem countP_perform (consistent : (s.rows table).Consistent)
    (spares : x.SparesBatchEvents table id) (status : BatchStatus) :
    ((s.perform x).2.rows table).countP (·.announces id status) =
      (s.rows table).countP (·.announces id status) +
        (s.emissions table x).countP (·.announces id status) := by
  obtain ⟨change, course⟩ := s.perform_course x consistent
  have all : ((s.rows table).filter fun row => !s.deletes table x row) = s.rows table := by
    refine List.filter_eq_self.mpr fun row member => ?_
    rw [Bool.not_eq_true', Bool.eq_false_iff]
    intro gone
    obtain ⟨_, target, cutoff, limit, isCall, _⟩ := course.expired row member gone
    exact spares.cleanup target cutoff limit isCall
  rw [course.rows, all, List.countP_append, List.countP_map]
  refine congrArg (· + _) (List.countP_congr fun row member => ?_)
  obtain ⟨_, _, _, type, _, key, _⟩ := OutboxEntry.fixedPart_eq_iff.mp (course.fixed row member)
  rw [Function.comp, OutboxEntry.announces, OutboxEntry.announces, type, key]

theorem finalization?_eq_none (other : x.call.finalizing? ≠ some id) :
    s.finalization? table id x = none :=
  if_neg fun both => other both.1

/-- A batch that gets another status is finalized, as far as the outbox is concerned that hears of
it. -/
theorem finalization?_of_moved {batch : UploadBatch} (isCall : x.call = .finalizeBatch batch.id)
    (found : s.tables.batch? batch.id = some batch)
    (changed : s.tables.derivedStatus batch.id ≠ batch.status)
    (batches : (s.perform x).2.tables.batches =
      (s.tables.setBatch (batch.moved (s.tables.derivedStatus batch.id) x.now)).batches) :
    s.finalization? table batch.id x =
      if x.db.uploads.outbox.table = table then some (s.tables.derivedStatus batch.id) else none := by
  have before : s.tables.batchStatus? batch.id = some batch.status := by
    rw [Tables.batchStatus?, found, Option.map_some]
  have after : (s.perform x).2.tables.batchStatus? batch.id =
      some (s.tables.derivedStatus batch.id) := by
    rw [Tables.batchStatus?, Tables.batch?_congr batches, Tables.batch?_setBatch, found]
    exact congrArg some (congrArg UploadBatch.status (if_pos rfl))
  have different : (s.perform x).2.tables.batchStatus? batch.id ≠ s.tables.batchStatus? batch.id := by
    rw [before, after]
    exact fun same => changed (Option.some.inj same)
  by_cases target : x.db.uploads.outbox.table = table
  · rw [if_pos target, finalization?, if_pos ⟨by rw [isCall]; rfl, target, different⟩, after]
  · rw [if_neg target]
    exact if_neg fun both => target both.2.1

theorem announces_finalization (settings : OutboxSettings) (entry : Uuid) (t : Tables)
    (batch : UploadBatch) (now : Instant) (id : Uuid) (status : BatchStatus) :
    (settings.newEntry entry (t.finalization batch) now).announces id status = true ↔
      batch.id = id ∧ t.derivedStatus batch.id = status := by
  have key : (settings.newEntry entry (t.finalization batch) now).idempotencyKey =
      batch.id.batchKey (t.derivedStatus batch.id) :=
    BatchStatus.event_key (t.derivedStatus batch.id) batch.status batch.id (t.fileStatuses batch.id)
  rw [OutboxEntry.announces, key, Bool.and_eq_true, decide_eq_true_eq, decide_eq_true_eq]
  constructor
  · exact fun both => Uuid.batchKey_injective both.2
  · rintro ⟨rfl, rfl⟩
    exact ⟨rfl, rfl⟩

theorem hasKey_iff_countP {rows : OutboxRows} :
    rows.hasKey batchFinalized (id.batchKey status) = false ↔
      rows.countP (·.announces id status) = 0 := by
  rw [List.countP_eq_zero, OutboxRows.hasKey, List.any_eq_false]
  rfl

/-- A status is told of once: not again if it is in the log of what has been told. -/
theorem countP_finalization {t : Tables} {batch : UploadBatch} {log : List BatchStatus}
    {rows : OutboxRows} (told : rows.countP (·.announces batch.id (t.derivedStatus batch.id)) =
      if t.derivedStatus batch.id ∈ log then 1 else 0)
    (settings : OutboxSettings) (entry : Uuid) (now : Instant) (status : BatchStatus) :
    List.countP (·.announces batch.id status)
      (if settings.table = table ∧
          rows.hasKey batchFinalized (batch.id.batchKey (t.derivedStatus batch.id)) = false then
        [settings.newEntry entry (t.finalization batch) now] else []) =
      if (if settings.table = table then some (t.derivedStatus batch.id) else none) = some status ∧
        status ∉ log then 1 else 0 := by
  have free : rows.hasKey batchFinalized (batch.id.batchKey (t.derivedStatus batch.id)) = false ↔
      t.derivedStatus batch.id ∉ log := by
    rw [hasKey_iff_countP]
    refine told.congr_left.trans ?_
    split <;> simp_all
  by_cases target : settings.table = table
  · rw [if_pos target]
    by_cases known : t.derivedStatus batch.id ∈ log
    · rw [if_neg fun both => free.mp both.2 known,
        if_neg fun both => both.2 (Option.some.inj both.1 ▸ known)]
      rfl
    · have mine := announces_finalization settings entry t batch now batch.id status
      rw [if_pos ⟨target, free.mpr known⟩, List.countP_singleton]
      refine if_congr (mine.trans ⟨fun ⟨_, same⟩ => ?_, fun ⟨same, _⟩ => ?_⟩) rfl rfl
      · exact ⟨congrArg some same, same ▸ known⟩
      · exact ⟨rfl, Option.some.inj same⟩
  · rw [if_neg target, if_neg fun both => target both.1, if_neg fun both => nomatch both.1]
    rfl

/-- What is told of a batch by a call, given what has been told of it before. -/
theorem countP_emissions {log : List BatchStatus} (issued : (s.rows table).Issued s.serial)
    (room : (s.perform x).2.serial ≤ 2 ^ 128) (spares : x.SparesBatchEvents table id)
    (told : ∀ status, (s.rows table).countP (·.announces id status) =
      if status ∈ log then 1 else 0) (status : BatchStatus) :
    (s.emissions table x).countP (·.announces id status) =
      if s.finalization? table id x = some status ∧ status ∉ log then 1 else 0 := by
  have quiet : ∀ {log : List BatchStatus}, s.finalization? table id x = none →
      (if s.finalization? table id x = some status ∧ status ∉ log then 1 else 0) = 0 := by
    intro log none
    rw [none]
    exact if_neg fun both => nomatch both.1
  have step := s.perform_batches x
  cases step with
  | quiet batches untold =>
    rw [countP_of_untold (untold table) spares, quiet]
    refine if_neg fun moved => moved.2.2 ?_
    rw [Tables.batchStatus?, Tables.batch?_congr batches, Tables.batchStatus?]
  | created isCall _ _ _ untold =>
    obtain ⟨_, _, isCall⟩ := isCall
    rw [countP_of_untold (untold table) spares, quiet]
    exact finalization?_eq_none (by rw [isCall]; exact nofun)
  | started isCall _ _ _ untold =>
    rw [countP_of_untold (untold table) spares, quiet]
    exact finalization?_eq_none (by rw [isCall]; exact nofun)
  | @finalized batch isCall found changed batches taken emitted =>
    have unused : ∀ row ∈ s.tables.outbox table, row.id ≠ Uuid.ofSerial s.serial := by
      intro row member
      obtain ⟨number, before, same⟩ := issued row member
      rw [same]
      exact Uuid.ofSerial_ne before (Nat.lt_of_lt_of_le taken room)
    rw [emitted table unused]
    by_cases mine : batch.id = id
    · subst mine
      rw [finalization?_of_moved isCall found changed batches]
      exact countP_finalization (told (s.tables.derivedStatus batch.id)) _ _ _ status
    · have other : x.call.finalizing? ≠ some id := by
        rw [isCall]
        exact fun same => mine (Option.some.inj same)
      rw [quiet (finalization?_eq_none other)]
      refine List.countP_eq_zero.mpr fun entry member announces => ?_
      split at member
      · cases List.mem_singleton.mp member
        exact mine ((announces_finalization _ _ _ _ _ _ _).mp announces).1
      · cases member

/-- Each status that was finalized has one event, and no other status has any. -/
theorem after_announced {run : List Transaction}
    (spares : ∀ x ∈ run, x.SparesBatchEvents table id)
    (room : (({} : Store).after run).serial ≤ 2 ^ 128) (status : BatchStatus) :
    ((({} : Store).after run).rows table).countP (·.announces id status) =
      if status ∈ ({} : Store).finalizations table id run then 1 else 0 := by
  induction run using List.reverseRecOn generalizing status with
  | nil =>
    have empty : ({} : Store).rows table = [] := by cases table <;> rfl
    rw [after_nil, empty, List.countP_nil]
    exact (if_neg List.not_mem_nil).symm
  | append_singleton before x ih =>
    rw [after_append, after_cons, after_nil] at room ⊢
    have sparesX := spares x (List.mem_append_right _ List.mem_cons_self)
    have told := ih (fun y member => spares y (List.mem_append_left _ member))
      (Nat.le_trans (Store.serial_le_perform _ x) room)
    rw [countP_perform (after_consistent before table) sparesX,
      countP_emissions (after_issued before table) room sparesX told, told, finalizations_append,
      finalizations, finalizations, List.append_nil]
    generalize (({} : Store).after before).finalization? table id x = moved
    cases moved with
    | none => simp
    | some status' => grind

theorem after_distinct {run : List Transaction}
    (room : (({} : Store).after run).serial ≤ 2 ^ 128) :
    (({} : Store).after run).tables.BatchesDistinct (({} : Store).after run).serial := by
  induction run using List.reverseRecOn with
  | nil => exact ⟨List.forall_mem_nil _, .nil⟩
  | append_singleton before x ih =>
    rw [after_append, after_cons, after_nil] at room ⊢
    have rising := Store.serial_le_perform (({} : Store).after before) x
    exact (ih (Nat.le_trans rising room)).step (Store.perform_batches _ x) rising room

/-- What finalization does to a batch, now and in the course of a run. -/
structure BatchHistory (run : List Transaction) (id : Uuid) : Prop where
  missing : ∀ x : Transaction, x.call = .finalizeBatch id →
    (({} : Store).after run).tables.batch? id = none →
    (({} : Store).after run).perform x =
      (.error (.notFound ("upload_batch " ++ id.text)), ({} : Store).after run)
  finalizes : ∀ (x : Transaction) (batch : UploadBatch), x.call = .finalizeBatch id →
    x.db.uploads.outbox.Storable → (({} : Store).after run).tables.batch? id = some batch →
    (({} : Store).after run).Finalizes x batch
  starts : ∀ x : Transaction, x.call = .startBatch id →
    ((∃ reply, ((({} : Store).after run).perform x).1 = .ok reply) ↔
      ∃ batch, (({} : Store).after run).tables.batch? id = some batch ∧ batch.status = .init)
  final : ∀ (before : List Transaction) (x : Transaction) (rest : List Transaction) (reply : Reply),
    run = before ++ x :: rest → x.call = .finalizeBatch id →
    ((({} : Store).after before).perform x).1 = .ok reply →
    ∃ batch, (({} : Store).after run).tables.batch? id = some batch ∧ batch.status ≠ .init ∧
      batch.status ≠ .inProgress
  /-- However often the batch comes to a status, it is announced once. -/
  announced : ∀ table : OutboxTable, (∀ x ∈ run, x.SparesBatchEvents table id) →
    ∀ status, ((({} : Store).after run).rows table).countP (·.announces id status) =
      if status ∈ ({} : Store).finalizations table id run then 1 else 0

/-- A batch that has been finalized by a call that succeeded is there, and is neither waiting nor
running. -/
theorem final_of_perform {reply : Reply} (isCall : x.call = .finalizeBatch id)
    (done : (s.perform x).1 = .ok reply) :
    ∃ batch, (s.perform x).2.tables.batch? id = some batch ∧ batch.status ≠ .init ∧
      batch.status ≠ .inProgress := by
  obtain ⟨db, now, call⟩ := x
  cases isCall
  rcases s.perform_cases ⟨db, now, .finalizeBatch id⟩ with ⟨e, failed, _⟩ | ⟨reply', u, run, performed, _⟩
  · cases failed.symm.trans done
  · obtain ⟨_, finalized, _⟩ := Stateful.run_map_eq_ok run
    have derived : s.begin.tables.derivedStatus id ≠ .init ∧
        s.begin.tables.derivedStatus id ≠ .inProgress :=
      ⟨BatchStatus.ofFiles_ne_init _, BatchStatus.ofFiles_ne_inProgress _⟩
    rw [performed]
    obtain ⟨batch, rfl, found, rfl, ⟨same, isUnit⟩ | ⟨_, result, _, emitted⟩⟩ :=
      UploadSettings.finalizeBatch_eq_ok finalized
    · exact ⟨batch, by rw [isUnit]; exact found, same ▸ derived⟩
    · refine ⟨batch.moved (s.begin.tables.derivedStatus batch.id) now, ?_, derived⟩
      change u.tables.batch? batch.id = _
      rw [Tables.batch?_congr (OutboxSettings.batches_of_emit emitted), Tables.batch?_setBatch, found]
      exact congrArg some (if_pos rfl)

/-- Batches are finalized as their files say, and told of once for each status that they come to. -/
theorem batch_finalization (run : List Transaction) (id : Uuid)
    (room : (({} : Store).after run).serial ≤ 2 ^ 128) : BatchHistory run id where
  missing _ isCall none := perform_finalizeBatch_missing isCall none
  finalizes x batch isCall limit found := by
    cases Tables.id_of_batch? found
    exact Store.finalizes (after_distinct room) isCall limit found
  starts _ isCall := perform_startBatch_iff isCall
  final before x rest reply split isCall done := by
    obtain ⟨batch, found, status⟩ := final_of_perform isCall done
    rw [split, after_append, after_cons]
    exact after_finalized found status rest
  announced _ spares := after_announced spares room

/-- The theorem about a batch that comes back to a status: its file is uploading, then stored, then
deleted. -/
theorem batch_finalization_oscillating :
    let call : Call → Transaction := fun call => ⟨{}, ⟨1767225600, 0⟩, call⟩
    let id := Uuid.ofSerial 0
    let file := Uuid.ofSerial 1
    let finalize := call (.finalizeBatch id)
    let run := [call (.createBatch none none), call (.startBatch id),
      call (.createFile { batchId := some id, filename := "a.txt", sizeBytes := 10 }), finalize,
      call (.markFileStored file), finalize, call (.markFileDeleted file), finalize, finalize]
    (({} : Store).after run).serial ≤ 2 ^ 128 ∧ BatchHistory run id ∧
      ({} : Store).finalizations .core id run = [.partly, .complete, .partly] ∧
      (∀ status, ((({} : Store).after run).rows .core).countP (·.announces id status) =
        if status ∈ [BatchStatus.partly, .complete] then 1 else 0) ∧
      (({} : Store).after run).tables.batchStatus? id = some .partly := by
  intro call id file finalize run
  have room : (({} : Store).after run).serial ≤ 2 ^ 128 := by decide +kernel
  have history := batch_finalization run id room
  have quiet : ∀ x ∈ run, x.call.events.isEmpty = true ∧ x.call.reworks = false := by decide +kernel
  have spares : ∀ x ∈ run, x.SparesBatchEvents .core id := by
    intro x member
    obtain ⟨silent, appends⟩ := quiet x member
    refine ⟨fun _ cutoff limit isCall => ?_, fun event there => ?_⟩
    · rw [isCall] at appends
      cases appends
    · rw [List.isEmpty_iff.mp silent] at there
      cases there
  have statuses : ({} : Store).finalizations .core id run = [.partly, .complete, .partly] := by
    decide +kernel
  refine ⟨room, history, statuses, fun status => ?_, by decide +kernel⟩
  rw [history.announced .core spares status, statuses]
  cases status <;> decide

end Store

end OutboxRelay
