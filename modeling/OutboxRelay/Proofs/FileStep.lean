import OutboxRelay.Proofs.FileEvents
import OutboxRelay.Proofs.OutboxHistory
import OutboxRelay.Proofs.StoredPayload

namespace OutboxRelay

/-- The event type that announces a status. -/
def FileStatus.announcement? : FileStatus → Option String
  | .stored => some fileStored
  | .processed => some fileProcessed
  | .failed => some fileFailed
  | _ => none

/-- The moves in the life of a file. -/
inductive FileStatus.MovesTo : FileStatus → FileStatus → Prop
  | stored : MovesTo .uploading .stored
  | processed : MovesTo .stored .processed
  | failed : MovesTo .uploading .failed
  | deleted {status} : status ≠ .deleted → MovesTo status .deleted

/-- What an event tells of a file. -/
structure FileNotice where
  eventType : String
  status : Option Json
  session : Option Json

def OutboxEntry.fileNotice (entry : OutboxEntry) : FileNotice :=
  ⟨entry.eventType, entry.payload.field? "status", entry.payload.field? "session_id"⟩

/-- What the events of a file among `entries` tell. -/
def Uuid.notices (id : Uuid) (entries : List OutboxEntry) : List FileNotice :=
  (entries.filter (·.idempotencyKey = id.fileKey)).map OutboxEntry.fileNotice

/-- The session that a call is to complete. -/
def Call.completing? : Call → Option Uuid
  | .completeSession session => some session
  | _ => none

/-- A file that enters a status: the session that takes it there, if one does, and the outbox table
where that is announced. -/
structure FileMove where
  status : FileStatus
  session : Option Uuid
  table : OutboxTable

/-- A move by a call. -/
def Transaction.move (x : Transaction) (status : FileStatus) : FileMove :=
  ⟨status, x.call.completing?, x.db.uploads.outbox.table⟩

/-- What has to be told of a move. -/
def FileMove.notice? (move : FileMove) : Option FileNotice :=
  move.status.announcement?.map fun eventType =>
    ⟨eventType, some move.status.toJson, move.session.map Json.ofUuid⟩

def FileMove.notices (table : OutboxTable) (move : FileMove) : List FileNotice :=
  if move.table = table then move.notice?.toList else []

/-- A row is replaced where it is found. -/
theorem find?_replace {α : Type} (key : α → Uuid) (rows : List α) (new : α) (id : Uuid) :
    (rows.map fun row => if key row = key new then new else row).find? (fun row => key row = id) =
      (rows.find? fun row => key row = id).map fun row => if key row = key new then new else row := by
  rw [List.find?_map]
  congr 1
  refine congrArg (List.find? · rows) (funext fun row => ?_)
  dsimp only [Function.comp]
  split
  · rename_i same
    rw [same]
  · rfl

namespace Tables

def fileStatus? (t : Tables) (id : Uuid) : Option FileStatus := (t.file? id).map (·.status)

/-- What one call can do to a file: `emitted` are the entries that it puts into each outbox. -/
inductive FileStep (x : Transaction) (id : Uuid) (t : Tables) (serial : Nat) (t' : Tables)
    (serial' : Nat) (emitted : OutboxTable → List OutboxEntry) : Prop
  | quiet : t'.fileStatus? id = t.fileStatus? id → (∀ table, id.notices (emitted table) = []) →
      FileStep x id t serial t' serial' emitted
  | removed : t'.fileStatus? id = none → (∀ table, id.notices (emitted table) = []) →
      FileStep x id t serial t' serial' emitted
  | born (status : FileStatus) : t.fileStatus? id = none → id = Uuid.ofSerial serial →
      serial < serial' → status = .uploading ∨ status = .failed → t'.fileStatus? id = some status →
      (∀ table, id.notices (emitted table) = (x.move status).notices table) →
      FileStep x id t serial t' serial' emitted
  | moved (old new : FileStatus) : t.fileStatus? id = some old → old.MovesTo new →
      t'.fileStatus? id = some new →
      (∀ table, id.notices (emitted table) = (x.move new).notices table) →
      FileStep x id t serial t' serial' emitted

theorem file?_setFile (t : Tables) (file : UploadFile) (id : Uuid) :
    (t.setFile file).file? id =
      (t.file? id).map fun row => if row.id = file.id then file else row :=
  find?_replace UploadFile.id t.files file id

theorem fileStatus?_setFile_self {t : Tables} {id : Uuid} {old file : UploadFile}
    (found : t.file? id = some old) (same : file.id = id) :
    (t.setFile file).fileStatus? id = some file.status := by
  rw [fileStatus?, file?_setFile, found, Option.map_some,
    if_pos ((id_of_file? found).trans same.symm)]
  rfl

theorem fileStatus?_setFile_of_ne {t : Tables} {id : Uuid} {file : UploadFile}
    (different : file.id ≠ id) : (t.setFile file).fileStatus? id = t.fileStatus? id := by
  rw [fileStatus?, file?_setFile, fileStatus?]
  cases found : t.file? id with
  | none => rfl
  | some row =>
    rw [Option.map_some, if_neg fun same => different (same.symm.trans (id_of_file? found))]

theorem fileStatus?_append {t t' : Tables} {file : UploadFile} (id : Uuid)
    (files : t'.files = t.files ++ [file]) : t'.fileStatus? id =
      (t.fileStatus? id).or (if file.id = id then some file.status else none) := by
  rw [fileStatus?, file?, files, List.find?_append, Option.map_or, fileStatus?, file?]
  congr 1
  rw [List.find?_singleton]
  by_cases same : file.id = id
  · rw [if_pos (decide_eq_true same), if_pos same]
    rfl
  · rw [if_neg (by rwa [decide_eq_true_eq]), if_neg same]
    rfl

theorem fileStatus?_deleteFiles (t : Tables) (ids : List Uuid) (id : Uuid) :
    (t.deleteFiles ids).fileStatus? id = t.fileStatus? id ∨
      (t.deleteFiles ids).fileStatus? id = none := by
  rw [fileStatus?, file?, deleteFiles, List.find?_filter]
  by_cases gone : ids.contains id = true
  · refine .inr (Option.map_eq_none_iff.mpr (List.find?_eq_none.mpr fun file _ => ?_))
    rw [decide_eq_true_eq, decide_eq_true_eq]
    rintro ⟨kept, rfl⟩
    rw [gone] at kept
    cases kept
  · refine .inl (congrArg (Option.map _) (congrArg (List.find? · t.files) (funext fun file => ?_)))
    rw [Bool.not_eq_true] at gone
    refine decide_eq_decide.mpr ⟨fun ⟨_, same⟩ => of_decide_eq_true same, fun same => ?_⟩
    exact ⟨by rw [same, gone]; rfl, decide_eq_true same⟩

theorem fileStatus?_congr {t t' : Tables} (files : t'.files = t.files) (id : Uuid) :
    t'.fileStatus? id = t.fileStatus? id := by
  rw [fileStatus?, file?, files, fileStatus?, file?]

/-- A file that moves, with all that is told of it. -/
theorem FileStep.of_move {x : Transaction} {id : Uuid} {t t' : Tables} {serial serial' : Nat}
    {emitted : OutboxTable → List OutboxEntry} {old file : UploadFile}
    (found : t.file? file.id = some old) (legal : old.status.MovesTo file.status)
    (files : t'.files = (t.setFile file).files)
    (told : ∀ table, id.notices (emitted table) =
      if file.id = id then (x.move file.status).notices table else []) :
    FileStep x id t serial t' serial' emitted := by
  by_cases same : file.id = id
  · subst same
    have before : t.fileStatus? file.id = some old.status := by
      rw [fileStatus?, found, Option.map_some]
    refine .moved old.status file.status before legal ?_ fun table => ?_
    · rw [fileStatus?_congr files, fileStatus?_setFile_self found rfl]
    · rw [told, if_pos rfl]
  · refine .quiet ?_ fun table => ?_
    · rw [fileStatus?_congr files, fileStatus?_setFile_of_ne same]
    · rw [told, if_neg same]

theorem FileStep.of_birth {x : Transaction} {id : Uuid} {t t' : Tables} {serial serial' : Nat}
    {emitted : OutboxTable → List OutboxEntry} {file : UploadFile}
    (isNew : file.id = Uuid.ofSerial serial) (rising : serial < serial')
    (unused : serial < serial' → (t.fileStatus? id).isSome = true → id ≠ Uuid.ofSerial serial)
    (status : file.status = .uploading ∨ file.status = .failed)
    (files : t'.files = t.files ++ [file])
    (told : ∀ table, id.notices (emitted table) =
      if file.id = id then (x.move file.status).notices table else []) :
    FileStep x id t serial t' serial' emitted := by
  by_cases same : file.id = id
  · have before : t.fileStatus? id = none := by
      rw [← Option.not_isSome_iff_eq_none]
      exact fun there => unused rising there (same.symm.trans isNew)
    refine .born file.status before (same.symm.trans isNew) rising status ?_ fun table => ?_
    · rw [fileStatus?_append id files, before, if_pos same]
      rfl
    · rw [told, if_pos same]
  · refine .quiet ?_ fun table => ?_
    · rw [fileStatus?_append id files, if_neg same, Option.or_none]
    · rw [told, if_neg same]

end Tables

theorem FileMove.notices_of_silent {move : FileMove} (silent : move.status.announcement? = none)
    (table : OutboxTable) : move.notices table = [] := by
  rw [notices, notice?, silent]
  exact ite_self _

theorem Uuid.notices_of_keys {id : Uuid} {entries : List OutboxEntry}
    (others : ∀ entry ∈ entries, entry.idempotencyKey ≠ id.fileKey) : id.notices entries = [] := by
  rw [notices, List.filter_eq_nil_iff.mpr, List.map_nil]
  exact fun entry member same => others entry member (of_decide_eq_true same)

/-- What an event of a file tells, seen from the file with the identifier `id`. -/
theorem UploadFile.notices_of_emit {settings : OutboxSettings} {now : Instant} {file : UploadFile}
    {eventType : String} {session : Option Uuid} {entry : OutboxEntry} {u v : UnitOfWork}
    (emitted : (settings.emit now (file.event eventType session)).run u = (.ok entry, v))
    (announced : file.status.announcement? = some eventType) (id : Uuid) (table : OutboxTable) :
    id.notices (if settings.table = table then [entry] else []) =
      if file.id = id then FileMove.notices table ⟨file.status, session, settings.table⟩ else [] := by
  obtain ⟨isEntry, _⟩ := OutboxSettings.emit_eq_ok emitted
  have key : entry.idempotencyKey = file.id.fileKey := by
    rw [isEntry]
    exact file.event_key eventType session
  have told : entry.fileNotice =
      ⟨eventType, some file.status.toJson, session.map Json.ofUuid⟩ := by
    rw [isEntry, OutboxEntry.fileNotice,
      OutboxSettings.payload_newEntry (file.readBack?_event eventType session), file.event_status,
      file.event_session]
    rfl
  unfold FileMove.notices
  split
  · by_cases same : file.id = id
    · have mine : [entry].filter (·.idempotencyKey = id.fileKey) = [entry] :=
        List.filter_eq_self.mpr (List.forall_mem_singleton.mpr (decide_eq_true (same ▸ key)))
      rw [if_pos same, Uuid.notices, mine, List.map_singleton, told, FileMove.notice?, announced]
      rfl
    · rw [if_neg same]
      refine Uuid.notices_of_keys (List.forall_mem_singleton.mpr fun equal => same ?_)
      exact Uuid.fileKey_injective (key.symm.trans equal)
  · rw [Uuid.notices, List.filter_nil, List.map_nil, ite_self]

theorem OutboxSettings.emit_key {settings : OutboxSettings} {now : Instant}
    {event : NewOutboxEvent} {u v : UnitOfWork} {entry : OutboxEntry}
    (run : (settings.emit now event).run u = (.ok entry, v)) :
    entry.idempotencyKey = event.resolvedKey := by
  rw [(emit_eq_ok run).1]
  rfl

theorem OutboxSettings.emitAll_keys {settings : OutboxSettings} {now : Instant}
    {events : List NewOutboxEvent} {u v : UnitOfWork} {entries : List OutboxEntry}
    (run : (settings.emitAll now events).run u = (.ok entries, v)) :
    ∀ entry ∈ entries, ∃ event ∈ events, entry.idempotencyKey = event.resolvedKey := by
  induction events generalizing u entries with
  | nil =>
    cases run
    exact List.forall_mem_nil _
  | cons event rest ih =>
    rw [emitAll, List.mapM_cons] at run
    obtain ⟨entry, between, first, others⟩ := Stateful.run_bind_eq_ok_iff.mp run
    obtain ⟨more, last, second, returned⟩ := Stateful.run_bind_eq_ok_iff.mp others
    cases returned
    refine List.forall_mem_cons.mpr ⟨⟨event, List.mem_cons_self, emit_key first⟩, ?_⟩
    intro other member
    obtain ⟨event', there, key⟩ := ih second other member
    exact ⟨event', List.mem_cons_of_mem _ there, key⟩

theorem OutboxSettings.files_of_emit {settings : OutboxSettings} {now : Instant}
    {event : NewOutboxEvent} {u v : UnitOfWork} {result : Except Error OutboxEntry}
    (run : (settings.emit now event).run u = (result, v)) : v.tables.files = u.tables.files :=
  congrArg (fun t => t.files) ((settings.emit_keeps Tables.uploads_setOutbox now event).eq run)

theorem OutboxSettings.tables_of_emit_duplicate {settings : OutboxSettings} {now : Instant}
    {event : NewOutboxEvent} {u v : UnitOfWork} {e : Error} (duplicate : e.isDuplicateEvent = true)
    (run : (settings.emit now event).run u = (.error e, v)) : v.tables = u.tables := by
  obtain ⟨type, key, rfl⟩ := Error.isDuplicateEvent_iff.mp duplicate
  rw [settings.emit_eq_duplicate now event run]

theorem Work.onEndpoints_eq_ok {α : Type}
    {operation : EndpointRows → Except Error (α × EndpointRows)} {u v : UnitOfWork} {a : α}
    (run : (onEndpoints operation).run u = (.ok a, v)) :
    ∃ rows, v = { u with tables := { u.tables with endpoints := rows } } := by
  rw [onEndpoints, run_tables_bind] at run
  split at run <;> cases run
  exact ⟨_, rfl⟩

namespace Store
variable {s : Store} {x : Transaction} {id : Uuid} {table : OutboxTable}

/-- A call that fails emits nothing. -/
theorem emissions_of_error {e : Error} (failed : (s.perform x).1 = .error e)
    (kept : (s.perform x).2.tables = s.tables) : s.emissions table x = [] := by
  unfold emissions
  split
  · rw [failed]
    rfl
  · rw [failed]
    rfl
  · split
    · rfl
    · rw [rows, rows, kept]
      exact List.drop_length

/-- What is emitted as it is given has the keys of the events that are given. -/
theorem keys_of_emit (db : Database) (now : Instant) (event : NewOutboxEvent) (table : OutboxTable) :
    ∀ entry ∈ s.emissions table ⟨db, now, .emit event⟩,
      ∃ given ∈ [event], entry.idempotencyKey = given.resolvedKey := by
  intro entry member
  rcases s.perform_cases ⟨db, now, .emit event⟩ with ⟨e, failed, kept, _⟩ | ⟨reply, u, run, performed, _⟩
  · rw [emissions_of_error failed kept] at member
    cases member
  · obtain ⟨emitted, done, rfl⟩ := Stateful.run_map_eq_ok run
    have shown : entry ∈ if db.outbox.table = table then [emitted] else [] := by
      rwa [emissions, performed] at member
    split at shown
    · cases List.mem_singleton.mp shown
      exact ⟨event, List.mem_singleton_self event, OutboxSettings.emit_key done⟩
    · cases shown

theorem keys_of_emitAll (db : Database) (now : Instant) (events : List NewOutboxEvent)
    (table : OutboxTable) : ∀ entry ∈ s.emissions table ⟨db, now, .emitAll events⟩,
      ∃ given ∈ events, entry.idempotencyKey = given.resolvedKey := by
  intro entry member
  rcases s.perform_cases ⟨db, now, .emitAll events⟩ with
    ⟨e, failed, kept, _⟩ | ⟨reply, u, run, performed, _⟩
  · rw [emissions_of_error failed kept] at member
    cases member
  · obtain ⟨emitted, done, rfl⟩ := Stateful.run_map_eq_ok run
    have shown : entry ∈ if db.outbox.table = table then emitted else [] := by
      rwa [emissions, performed] at member
    split at shown
    · exact OutboxSettings.emitAll_keys done entry shown
    · cases shown

/-- What a call emits is what it adds at the end of an outbox. -/
def EmitsAdded (s : Store) (x : Transaction) : Prop :=
  ∀ table, s.emissions table x = ((s.perform x).2.rows table).drop (s.rows table).length

theorem EmitsAdded.emissions {new : List OutboxEntry} (adds : s.EmitsAdded x)
    (added : (s.perform x).2.rows table = s.rows table ++ new) : s.emissions table x = new := by
  rw [adds table, added]
  exact List.drop_left

/-- What a call does to a file, with what it emits, is one of the things of `Tables.FileStep`. -/
def StepsFile (s : Store) (x : Transaction) (id : Uuid) : Prop :=
  s.tables.FileStep x id s.serial (s.perform x).2.tables (s.perform x).2.serial
    fun table => s.emissions table x

/-- A call on uploads that succeeds, when `new` is what it puts into the outboxes. -/
theorem stepsFile_of_unit {reply : Except Error Reply} {u : UnitOfWork}
    (performed : s.perform x = (reply, s.commit u)) (new : OutboxTable → List OutboxEntry)
    (adds : s.EmitsAdded x)
    (added : ∀ table, u.tables.outbox table = s.tables.outbox table ++ new table)
    (step : s.tables.FileStep x id s.serial u.tables u.serial new) : s.StepsFile x id := by
  have emitted : (fun table => s.emissions table x) = new := by
    refine funext fun table => adds.emissions ?_
    rw [performed]
    exact added table
  rw [StepsFile, emitted, performed]
  exact step

/-- A call that leaves files and outboxes alone. -/
theorem stepsFile_of_kept {reply : Except Error Reply} {u : UnitOfWork}
    (performed : s.perform x = (reply, s.commit u))
    (adds : s.EmitsAdded x)
    (kept : ∀ table, u.tables.outbox table = s.tables.outbox table)
    (files : u.tables.files = s.tables.files) : s.StepsFile x id :=
  stepsFile_of_unit performed (fun _ => []) adds
    (fun table => (kept table).trans (List.append_nil _).symm)
    (.quiet (Tables.fileStatus?_congr files id) fun _ => rfl)

/-- A call that takes `file` to a status of which nobody is told. -/
theorem stepsFile_of_silent {reply : Except Error Reply} {u : UnitOfWork} {file : UploadFile}
    (performed : s.perform x = (reply, s.commit u))
    (adds : s.EmitsAdded x)
    (kept : ∀ table, u.tables.outbox table = s.tables.outbox table)
    (silent : file.status.announcement? = none)
    (step : ∀ new : OutboxTable → List OutboxEntry, (∀ table, id.notices (new table) =
        if file.id = id then (x.move file.status).notices table else []) →
      s.tables.FileStep x id s.serial u.tables u.serial new) : s.StepsFile x id := by
  refine stepsFile_of_unit performed (fun _ => []) adds
    (fun table => (kept table).trans (List.append_nil _).symm) (step _ fun table => ?_)
  rw [FileMove.notices_of_silent silent, ite_self]
  rfl

/-- A call that takes `file` to a status and announces it. -/
theorem stepsFile_of_announced {reply : Except Error Reply} {between u : UnitOfWork}
    {file : UploadFile} {eventType : String} {entry : OutboxEntry}
    (performed : s.perform x = (reply, s.commit u))
    (adds : s.EmitsAdded x)
    (kept : ∀ table, between.tables.outbox table = s.tables.outbox table)
    (emitted : (x.db.uploads.outbox.emit x.now (file.event eventType x.call.completing?)).run
      between = (.ok entry, u))
    (announced : file.status.announcement? = some eventType)
    (step : ∀ new : OutboxTable → List OutboxEntry, (∀ table, id.notices (new table) =
        if file.id = id then (x.move file.status).notices table else []) →
      s.tables.FileStep x id s.serial u.tables u.serial new) : s.StepsFile x id := by
  refine stepsFile_of_unit performed
    (fun table => if x.db.uploads.outbox.table = table then [entry] else []) adds (fun table => ?_)
    (step _ (UploadFile.notices_of_emit emitted announced id))
  rw [OutboxSettings.emit_rows emitted table, kept]

theorem stepsFile_of_transitionFile {db : Database} {now : Instant} {call : Call} {target : Uuid}
    {sources : List FileStatus} {status : FileStatus} {message eventType : Option String}
    {moved : UploadFile} {reply : Except Error Reply} {u : UnitOfWork}
    (run : (db.uploads.transitionFile now target sources status message eventType :
      Work UploadFile).run s.begin = (.ok moved, u))
    (performed : s.perform ⟨db, now, call⟩ = (reply, s.commit u))
    (adds : s.EmitsAdded ⟨db, now, call⟩)
    (legal : ∀ source ∈ sources, source.MovesTo status)
    (announced : status.announcement? = eventType) (incomplete : call.completing? = none) :
    s.StepsFile ⟨db, now, call⟩ id := by
  obtain ⟨old, found, allowed, isMoved, rest⟩ := UploadSettings.transitionFile_eq_ok run
  have ofOld : old.id = target := Tables.id_of_file? found
  have sameId : moved.id = target := by
    rw [isMoved]
    exact ofOld
  have isStatus : moved.status = status := by
    rw [isMoved]
    rfl
  rw [← sameId] at found
  rw [← isStatus] at announced
  have moves : old.status.MovesTo moved.status :=
    isStatus ▸ legal old.status (List.contains_iff_mem.mp allowed)
  cases eventType with
  | none =>
    refine stepsFile_of_silent performed adds (fun table => ?_) announced fun new told =>
      .of_move found moves (by rw [rest]; rfl) told
    rw [rest]
    exact Tables.outbox_congr rfl rfl table
  | some type =>
    obtain ⟨entry, emitted⟩ := rest
    rw [← incomplete] at emitted
    have files := OutboxSettings.files_of_emit emitted
    exact stepsFile_of_announced performed adds (Tables.outbox_congr rfl rfl)
      emitted announced fun new told => .of_move found moves files told

theorem stepsFile_of_completeSession {db : Database} {now : Instant} {session : Uuid}
    {completed : UploadSession} {reply : Except Error Reply} {u : UnitOfWork}
    (run : (db.uploads.completeSession now session : Work UploadSession).run s.begin = (.ok completed, u))
    (performed : s.perform ⟨db, now, .completeSession session⟩ = (reply, s.commit u)) :
    s.StepsFile ⟨db, now, .completeSession session⟩ id := by
  obtain ⟨opened, _, _, _, _, _, rest⟩ := UploadSettings.completeSession_eq_ok run
  rcases rest with ⟨old, entry, found, uploading, emitted⟩ | ⟨_, isUnit⟩
  · have ofOld : old.id = opened.fileId := Tables.id_of_file? found
    have there : s.tables.file? (old.moved .stored none now).id = some old := ofOld ▸ found
    have moves : old.status.MovesTo (old.moved .stored none now).status := by
      rw [uploading]
      exact .stored
    have files := OutboxSettings.files_of_emit emitted
    exact stepsFile_of_announced performed (fun _ => rfl)
      (Tables.outbox_congr rfl rfl) emitted rfl
      fun new told => .of_move there moves files told
  · subst isUnit
    exact stepsFile_of_kept performed (fun _ => rfl) (Tables.outbox_congr rfl rfl) rfl

theorem stepsFile_of_createFile {db : Database} {now : Instant} {request : NewUploadFile}
    {file : UploadFile} {reply : Except Error Reply} {u : UnitOfWork}
    (run : (db.uploads.createFile now request : Work UploadFile).run s.begin = (.ok file, u))
    (performed : s.perform ⟨db, now, .createFile request⟩ = (reply, s.commit u))
    (unused : s.serial < u.serial → (s.tables.fileStatus? id).isSome = true →
      id ≠ Uuid.ofSerial s.serial) : s.StepsFile ⟨db, now, .createFile request⟩ id := by
  obtain ⟨isFile, _, _, between, rfl, rest⟩ := UploadSettings.createFile_eq_ok run
  have isNew : file.id = Uuid.ofSerial s.serial := by
    rw [isFile]
    rfl
  have status : file.status = .uploading ∨ file.status = .failed := by
    rw [isFile]
    unfold UploadSettings.inTable UploadSettings.newFile
    dsimp only
    split
    · exact .inl rfl
    · exact .inr rfl
  split at rest
  · rename_i failed
    obtain ⟨entry, emitted⟩ := rest
    have files := OutboxSettings.files_of_emit emitted
    have rising : s.serial < u.serial := by
      obtain ⟨_, _, _, rfl⟩ := OutboxSettings.emit_eq_ok emitted
      exact Nat.lt_succ_of_lt (Nat.lt_succ_self _)
    have announced : file.status.announcement? = some fileFailed := by
      rw [failed]
      rfl
    exact stepsFile_of_announced performed (fun _ => rfl)
      (Tables.outbox_congr rfl rfl) emitted announced
      fun new told => .of_birth isNew rising unused status files told
  · rename_i accepted
    have silent : file.status.announcement? = none := by
      rw [status.resolve_right accepted]
      rfl
    refine stepsFile_of_silent performed (fun _ => rfl) (fun table => ?_) silent fun new told =>
      .of_birth isNew (by rw [rest]; exact Nat.lt_succ_self _) unused status (by rw [rest]; rfl) told
    rw [rest]
    exact Tables.outbox_congr rfl rfl table

/-- What is emitted as it is does not concern a file whose key is not among the keys. -/
theorem stepsFile_of_events {reply : Except Error Reply} {u : UnitOfWork}
    (performed : s.perform x = (reply, s.commit u)) (files : u.tables.files = s.tables.files)
    (keys : ∀ table, ∀ entry ∈ s.emissions table x,
      ∃ event ∈ x.call.events, entry.idempotencyKey = event.resolvedKey)
    (others : ∀ event ∈ x.call.events, event.resolvedKey ≠ id.fileKey) : s.StepsFile x id := by
  rw [StepsFile, performed]
  refine .quiet (Tables.fileStatus?_congr files id) fun table =>
    Uuid.notices_of_keys fun entry member same => ?_
  obtain ⟨event, there, key⟩ := keys table entry member
  exact others event there (key.symm.trans same)

theorem stepsFile_of_finalizeBatch {db : Database} {now : Instant} {batch : Uuid}
    {status : BatchStatus} {reply : Except Error Reply} {u : UnitOfWork}
    (run : (db.uploads.finalizeBatch now batch : Work BatchStatus).run s.begin = (.ok status, u))
    (performed : s.perform ⟨db, now, .finalizeBatch batch⟩ = (reply, s.commit u)) :
    s.StepsFile ⟨db, now, .finalizeBatch batch⟩ id := by
  obtain ⟨_, _, _, _, ⟨_, isUnit⟩ | ⟨_, result, absorbed, announced⟩⟩ :=
    UploadSettings.finalizeBatch_eq_ok run
  · subst isUnit
    exact stepsFile_of_kept performed (fun _ => rfl) (fun _ => rfl) rfl
  · have sameFiles : u.tables.files = s.tables.files := OutboxSettings.files_of_emit announced
    cases result with
    | error e =>
      have tables := OutboxSettings.tables_of_emit_duplicate
        (UploadSettings.absorbed_error_eq_ok_iff.mp absorbed) announced
      refine stepsFile_of_kept performed (fun _ => rfl) (fun table => ?_) sameFiles
      rw [tables]
      exact Tables.outbox_congr rfl rfl table
    | ok entry =>
      refine stepsFile_of_unit performed
        (fun table => if db.uploads.outbox.table = table then [entry] else []) (fun _ => rfl)
        (fun table => ?_) (.quiet (Tables.fileStatus?_congr sameFiles id) fun table =>
          Uuid.notices_of_keys fun other member same => ?_)
      · rw [OutboxSettings.emit_rows announced table]
        exact congrArg (· ++ _) (Tables.outbox_congr rfl rfl table)
      · split at member
        · cases List.mem_singleton.mp member
          have key := OutboxSettings.emit_key announced
          exact BatchStatus.event_key_ne _ _ _ _ _ (key.symm.trans same)
        · cases member

/-- Every call steps a file, unless it emits under the key of the file itself. -/
theorem perform_file (s : Store) (x : Transaction) (id : Uuid)
    (others : ∀ event ∈ x.call.events, event.resolvedKey ≠ id.fileKey)
    (unused : s.serial < (s.perform x).2.serial → (s.tables.fileStatus? id).isSome = true →
      id ≠ Uuid.ofSerial s.serial) : s.StepsFile x id := by
  rcases s.perform_cases x with ⟨e, failed, kept, _⟩ | ⟨reply, u, run, performed, _⟩
  · refine .quiet (by rw [kept]) fun table => ?_
    rw [emissions_of_error failed kept]
    rfl
  obtain ⟨db, now, call⟩ := x
  have files : Work.Keeps Tables.uploads (call.run db now) → u.tables.files = s.tables.files :=
    fun keeps => congrArg (fun t => t.files) (keeps.eq run)
  cases call with
  | emit event =>
    exact stepsFile_of_events performed
      (files ((db.outbox.emit_keeps Tables.uploads_setOutbox now event).map _))
      (keys_of_emit db now event) others
  | emitAll events =>
    exact stepsFile_of_events performed
      (files ((db.outbox.emitAll_keeps Tables.uploads_setOutbox now events).map _))
      (keys_of_emitAll db now events) others
  | fetchDue | release | applyTransitions | cleanup | requeueFailed =>
    refine stepsFile_of_events performed (files (Call.run_keeps Tables.uploads_setOutbox rfl db now))
      (fun table entry member => ?_) others
    -- nothing is emitted
    change entry ∈ [] at member
    exact absurd member List.not_mem_nil
  | createEndpoint request =>
    obtain ⟨_, done, _⟩ := Stateful.run_map_eq_ok run
    rw [registerEndpoint, Work.freshId_part, Work.run_freshId_bind] at done
    obtain ⟨_, rfl⟩ := Work.onEndpoints_eq_ok done
    exact stepsFile_of_kept performed (fun _ => rfl) (Tables.outbox_congr rfl rfl) rfl
  | updateEndpoint | deleteEndpoint =>
    obtain ⟨_, done, _⟩ := Stateful.run_map_eq_ok run
    obtain ⟨_, rfl⟩ := Work.onEndpoints_eq_ok done
    exact stepsFile_of_kept performed (fun _ => rfl) (Tables.outbox_congr rfl rfl) rfl
  | createBatch createdBy key =>
    obtain ⟨_, created, _⟩ := Stateful.run_map_eq_ok run
    obtain ⟨_, _, isUnit⟩ := UploadSettings.createBatch_eq_ok created
    subst isUnit
    exact stepsFile_of_kept performed (fun _ => rfl) (Tables.outbox_congr rfl rfl) rfl
  | startBatch batch =>
    obtain ⟨_, started, _⟩ := Stateful.run_map_eq_ok run
    obtain ⟨_, _, _, _, isUnit⟩ := UploadSettings.startBatch_eq_ok started
    subst isUnit
    exact stepsFile_of_kept performed (fun _ => rfl) (Tables.outbox_congr rfl rfl) rfl
  | finalizeBatch batch =>
    obtain ⟨_, finalized, _⟩ := Stateful.run_map_eq_ok run
    exact stepsFile_of_finalizeBatch finalized performed
  | createFile request =>
    obtain ⟨_, created, _⟩ := Stateful.run_map_eq_ok run
    rw [performed] at unused
    exact stepsFile_of_createFile created performed unused
  | markFileStored file =>
    obtain ⟨_, moved, _⟩ := Stateful.run_map_eq_ok run
    exact stepsFile_of_transitionFile moved performed (fun _ => rfl)
      (List.forall_mem_singleton.mpr .stored) rfl rfl
  | markFileProcessed file =>
    obtain ⟨_, moved, _⟩ := Stateful.run_map_eq_ok run
    exact stepsFile_of_transitionFile moved performed (fun _ => rfl)
      (List.forall_mem_singleton.mpr .processed) rfl rfl
  | markFileFailed file message =>
    obtain ⟨_, moved, _⟩ := Stateful.run_map_eq_ok run
    exact stepsFile_of_transitionFile moved performed (fun _ => rfl)
      (List.forall_mem_singleton.mpr .failed) rfl rfl
  | markFileDeleted file =>
    obtain ⟨_, moved, _⟩ := Stateful.run_map_eq_ok run
    refine stepsFile_of_transitionFile moved performed (fun _ => rfl) (fun source allowed => ?_)
      rfl rfl
    refine .deleted fun deleted => ?_
    rw [deleted] at allowed
    exact absurd allowed (by decide)
  | createSession token file total chunk =>
    obtain ⟨_, created, _⟩ := Stateful.run_map_eq_ok run
    obtain ⟨_, _, _, _, _, _, _, _, _, _, rfl⟩ := UploadSettings.createSession_eq_ok created
    exact stepsFile_of_kept performed (fun _ => rfl) (Tables.outbox_congr rfl rfl) rfl
  | recordPart session part =>
    obtain ⟨_, done, _⟩ := Stateful.run_map_eq_ok run
    obtain ⟨_, _, _, _, _, _, _, _, _, _, _, _, _, rfl⟩ := UploadSettings.recordPart_eq_ok done
    exact stepsFile_of_kept performed (fun _ => rfl) (Tables.outbox_congr rfl rfl) rfl
  | completeSession session =>
    obtain ⟨_, done, _⟩ := Stateful.run_map_eq_ok run
    exact stepsFile_of_completeSession done performed
  | abortSession session | failSession session =>
    obtain ⟨_, done, _⟩ := Stateful.run_map_eq_ok run
    obtain ⟨_, _, _, _, rfl⟩ := UploadSettings.terminateSession_eq_ok done
    exact stepsFile_of_kept performed (fun _ => rfl) (Tables.outbox_congr rfl rfl) rfl
  | cleanupFiles cutoff limit =>
    obtain ⟨_, done, _⟩ := Stateful.run_map_eq_ok run
    rcases UploadSettings.cleanupExpiredFiles_eq_ok done with rfl | ⟨ids, rfl⟩
    · exact stepsFile_of_kept performed (fun _ => rfl) (fun _ => rfl) rfl
    · refine stepsFile_of_unit performed (fun _ => []) (fun _ => rfl)
        (fun table => (Tables.outbox_congr rfl rfl table).trans (List.append_nil _).symm) ?_
      rcases s.tables.fileStatus?_deleteFiles ids id with kept | gone
      · exact .quiet kept fun _ => rfl
      · exact .removed gone fun _ => rfl

end Store

end OutboxRelay
