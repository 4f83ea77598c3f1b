import OutboxRelay.Proofs.OneUnit

namespace OutboxRelay

namespace Tables

/-- What the tables hold of uploads. -/
def uploads (t : Tables) : Tables := { t with core := [], portal := [], endpoints := [] }

@[simp] theorem uploads_setOutbox (t : Tables) (table : OutboxTable) (rows : List OutboxEntry) :
    (t.setOutbox table rows).uploads = t.uploads := by
  cases table <;> rfl

end Tables

namespace Work
variable {α β γ : Type} {part : Tables → γ}

/-- The step leaves a part of the tables alone, whether it succeeds or not. -/
def Keeps (part : Tables → γ) (w : Work α) : Prop := ∀ u, part (w.run u).2.tables = part u.tables

theorem keeps_pure (a : α) : Keeps part (pure a : Work α) := fun _ => rfl

theorem Keeps.eq {w : Work α} (keeps : Keeps part w) {u v : UnitOfWork}
    {result : Except Error α} (run : w.run u = (result, v)) : part v.tables = part u.tables := by
  have kept := keeps u
  rwa [run] at kept

theorem Keeps.bind {w : Work α} {f : α → Work β} (first : Keeps part w)
    (rest : ∀ a, Keeps part (f a)) : Keeps part (w >>= f) := by
  intro u
  have begun := first u
  rw [Stateful.run_bind]
  rcases run : w.run u with ⟨_ | a, v⟩
  · simpa only [run] using begun
  · rw [run] at begun
    exact (rest a v).trans begun

theorem Keeps.map {w : Work α} (g : α → β) (keeps : Keeps part w) : Keeps part (g <$> w) := by
  intro u
  rw [Stateful.run_map]
  exact keeps u

theorem keeps_lift (x : Except Error α) : Keeps part (liftM x : Work α) := by
  intro u
  rw [Stateful.run_lift]

theorem onOutbox_keeps (frame : ∀ t table rows, part (Tables.setOutbox t table rows) = part t)
    (table : OutboxTable) (operation : OutboxRows → Except Error (α × OutboxRows)) :
    Keeps part (onOutbox table operation) := by
  intro u
  rcases Bool.eq_false_or_eq_true u.isAborted with aborted | usable
  · rw [run_onOutbox_aborted table operation aborted]
  · rw [run_onOutbox table operation usable]
    split
    · exact frame _ _ _
    · rfl

theorem onEndpoints_keepsUploads (operation : EndpointRows → Except Error (α × EndpointRows)) :
    Keeps Tables.uploads (onEndpoints operation) := by
  intro u
  rw [onEndpoints, run_tables_bind]
  split <;> rfl

end Work

theorem registerEndpoint_keepsUploads (now : Instant) (request : NewEndpoint) :
    Work.Keeps Tables.uploads (registerEndpoint now request) := by
  intro u
  rw [registerEndpoint, Work.freshId_part, Work.run_freshId_bind]
  exact Work.onEndpoints_keepsUploads _ _

/-- The events that a call is to emit as they are. -/
def Call.events : Call → List NewOutboxEvent
  | .emit event => [event]
  | .emitAll events => events
  | _ => []

/-- Whether a call changes entries that are there. -/
def Call.reworks : Call → Bool
  | .fetchDue .. => true
  | .release .. => true
  | .applyTransitions .. => true
  | .cleanup .. => true
  | .requeueFailed .. => true
  | _ => false

section Frame
variable {γ : Type} {part : Tables → γ}
  (frame : ∀ t table rows, part (Tables.setOutbox t table rows) = part t)
include frame

namespace OutboxTable
variable (table : OutboxTable) (clock : Instant)

theorem fetchDue_keeps (time : Instant) (limit : Int) (lease : Period) :
    Work.Keeps part (table.fetchDue time limit lease clock : Work _) := by
  refine (Work.keeps_lift _).bind fun claimEnd => ?_
  refine (Work.onOutbox_keeps frame _ _).bind fun entries => ?_
  split
  · exact (Work.onOutbox_keeps frame _ _).bind fun _ => Work.keeps_pure _
  · exact Work.keeps_pure _

theorem giveBack_keeps (entries : List OutboxEntry) :
    Work.Keeps part (giveBack table clock entries) := by
  induction entries with
  | nil => exact Work.keeps_pure 0
  | cons entry rest ih =>
    exact (Work.onOutbox_keeps frame _ _).bind fun _ => ih.bind fun _ => Work.keeps_pure _

theorem settle_keeps (transitions : List EntryTransition) :
    Work.Keeps part (settle table clock transitions) := by
  induction transitions with
  | nil => exact Work.keeps_pure []
  | cons t rest ih =>
    exact (Work.onOutbox_keeps frame _ _).bind fun _ => ih.bind fun _ => Work.keeps_pure _

theorem release_keeps (entries : List OutboxEntry) :
    Work.Keeps part (table.release entries clock : Work Nat) := by
  unfold release
  split
  · exact Work.keeps_pure 0
  · exact table.giveBack_keeps frame clock entries

theorem applyTransitions_keeps (transitions : List EntryTransition) :
    Work.Keeps part (table.applyTransitions transitions clock : Work (List Uuid)) := by
  unfold applyTransitions
  split
  · exact Work.keeps_pure []
  · exact table.settle_keeps frame clock transitions

theorem cleanup_keeps (cutoff : Instant) (limit : Int) :
    Work.Keeps part (table.cleanup cutoff limit : Work CleanupStats) := by
  refine (Work.onOutbox_keeps frame _ _).bind fun total => ?_
  split
  · exact Work.keeps_pure _
  · exact (Work.onOutbox_keeps frame _ _).bind fun _ => Work.keeps_pure _

theorem requeueFailed_keeps (ids : List Uuid) (due : Instant) :
    Work.Keeps part (table.requeueFailed ids due clock : Work Nat) := by
  unfold requeueFailed
  split
  · exact Work.keeps_pure 0
  · exact Work.onOutbox_keeps frame _ _

end OutboxTable

theorem Call.run_keeps {call : Call} (reworks : call.reworks = true) (db : Database)
    (now : Instant) : Work.Keeps part (call.run db now) := by
  cases call with
  | fetchDue time limit lease => exact (db.outbox.table.fetchDue_keeps frame now time limit lease).map _
  | release entries => exact (db.outbox.table.release_keeps frame now entries).map _
  | applyTransitions transitions =>
    exact (db.outbox.table.applyTransitions_keeps frame now transitions).map _
  | cleanup cutoff limit => exact (db.outbox.table.cleanup_keeps frame cutoff limit).map _
  | requeueFailed ids due => exact (db.outbox.table.requeueFailed_keeps frame now ids due).map _
  | _ => cases reworks

theorem OutboxSettings.emit_keeps (settings : OutboxSettings) (now : Instant)
    (event : NewOutboxEvent) : Work.Keeps part (settings.emit now event) := by
  intro u
  rcases Bool.eq_false_or_eq_true u.isAborted with aborted | usable
  · rw [settings.run_emit_aborted now event aborted]
  · rw [settings.run_emit now event usable]
    split
    · rfl
    · split <;> exact frame _ _ _

theorem OutboxSettings.emitAll_keeps (settings : OutboxSettings) (now : Instant)
    (events : List NewOutboxEvent) : Work.Keeps part (settings.emitAll now events) := by
  induction events with
  | nil => exact Work.keeps_pure []
  | cons event rest ih =>
    rw [emitAll, List.mapM_cons]
    exact (settings.emit_keeps frame now event).bind fun entry => ih.bind fun entries =>
      Work.keeps_pure (entry :: entries)

end Frame

theorem checkTexts_eq_ok_iff {texts : List String} :
    checkTexts texts = .ok () ↔ texts.any hasNull = false := by
  unfold checkTexts
  split <;> simp_all

/-- A file after a move. -/
def UploadFile.moved (file : UploadFile) (target : FileStatus) (message : Option String)
    (now : Instant) : UploadFile :=
  { file with
    status := target
    errorMessage := message.getD file.errorMessage
    updatedAt := now }

namespace UploadSession

/-- A session after one part more. -/
def advanced (session : UploadSession) (size : Int) (now : Instant) : UploadSession :=
  { session with
    completedParts := session.completedParts + 1
    bytesReceived := session.bytesReceived + size
    status := .inProgress
    updatedAt := now }

/-- A session that has come to a status. -/
def concluded (session : UploadSession) (target : SessionStatus) (now : Instant) :
    UploadSession :=
  { session with status := target, updatedAt := now }

end UploadSession

/-- A batch that has come to a status. -/
def UploadBatch.moved (batch : UploadBatch) (status : BatchStatus) (now : Instant) : UploadBatch :=
  { batch with status, updatedAt := now }

namespace Tables

/-- The statuses of the files of a batch. -/
def fileStatuses (t : Tables) (batch : Uuid) : List FileStatus := (t.batchFiles batch).map (·.status)

/-- The status that its files give a batch. -/
def derivedStatus (t : Tables) (batch : Uuid) : BatchStatus := .ofFiles (t.fileStatuses batch)

/-- The event that tells of it. -/
def finalization (t : Tables) (batch : UploadBatch) : NewOutboxEvent :=
  (t.derivedStatus batch.id).event batch.status batch.id (t.fileStatuses batch.id)

theorem id_of_batch? {t : Tables} {id : Uuid} {batch : UploadBatch}
    (found : t.batch? id = some batch) : batch.id = id := by
  simpa using List.find?_some found

theorem id_of_file? {t : Tables} {id : Uuid} {file : UploadFile} (found : t.file? id = some file) :
    file.id = id := by
  simpa using List.find?_some found

theorem id_of_session? {t : Tables} {id : Uuid} {session : UploadSession}
    (found : t.session? id = some session) : session.id = id := by
  simpa using List.find?_some found

end Tables

namespace UploadSettings
variable {settings : UploadSettings} {now : Instant} {u v : UnitOfWork}

theorem run_moveFile (now : Instant) (id : Uuid) (sources : List FileStatus)
    (target : FileStatus) (message : Option String) (u : UnitOfWork) :
    (moveFile now id sources target message).run u =
      if message.toList.any hasNull then (.error (.database .nullCharacter), u)
      else match (u.tables.file? id).filter fun file => sources.contains file.status with
        | some file => (.ok (some (file.moved target message now)),
            { u with tables := u.tables.setFile (file.moved target message now) })
        | none => (.ok none, u) := by
  unfold moveFile
  rw [Stateful.run_bind, Stateful.run_lift, checkTexts]
  by_cases null : message.toList.any hasNull = true
  · rw [if_pos null, if_pos null]
  · rw [if_neg null, if_neg null]
    dsimp only
    rw [Work.run_tables_bind]
    cases (u.tables.file? id).filter fun file => sources.contains file.status <;> rfl

theorem moveFile_eq_ok {id : Uuid} {sources : List FileStatus} {target : FileStatus}
    {message : Option String} {moved : Option UploadFile}
    (run : (moveFile now id sources target message).run u = (.ok moved, v)) :
    (∃ file, u.tables.file? id = some file ∧ sources.contains file.status = true ∧
        moved = some (file.moved target message now) ∧
        v = { u with tables := u.tables.setFile (file.moved target message now) }) ∨
      moved = none ∧ v = u ∧ (u.tables.file? id).filter (sources.contains ·.status) = none := by
  rw [run_moveFile] at run
  split at run
  · cases run
  · split at run
    · rename_i file found
      obtain ⟨there, allowed⟩ := Option.filter_eq_some_iff.mp found
      cases run
      exact .inl ⟨file, there, allowed, rfl, rfl⟩
    · rename_i none
      cases run
      exact .inr ⟨rfl, rfl, none⟩

theorem transitionFile_eq_ok {id : Uuid} {sources : List FileStatus} {target : FileStatus}
    {message eventType : Option String} {moved : UploadFile}
    (run : (settings.transitionFile now id sources target message eventType : Work UploadFile).run u =
      (.ok moved, v)) :
    ∃ file, u.tables.file? id = some file ∧ sources.contains file.status = true ∧
      moved = file.moved target message now ∧
      match eventType with
      | none => v = { u with tables := u.tables.setFile moved }
      | some type => ∃ entry, (settings.outbox.emit now (moved.event type none)).run
          { u with tables := u.tables.setFile moved } = (.ok entry, v) := by
  obtain ⟨result, last, body, returned⟩ := Stateful.run_bind_eq_ok_iff.mp run
  rw [Work.transaction?_part] at body
  cases result with
  | none => cases returned
  | some given =>
    cases returned
    obtain ⟨result, between, first, rest⟩ := Stateful.run_bind_eq_ok_iff.mp body
    rcases moveFile_eq_ok first with ⟨file, there, allowed, rfl, rfl⟩ | ⟨rfl, rfl, _⟩
    · refine ⟨file, there, allowed, ?_⟩
      cases eventType with
      | none =>
        cases rest
        exact ⟨rfl, rfl⟩
      | some type =>
        obtain ⟨entry, last, emitted, returned⟩ := Stateful.run_bind_eq_ok_iff.mp rest
        cases returned
        exact ⟨rfl, entry, emitted⟩
    · cases rest

theorem insertFile_eq_ok {file row : UploadFile} (run : (insertFile file).run u = (.ok row, v)) :
    [file.filename, file.contentType, file.sha256, file.errorMessage].any hasNull = false ∧
      file.metadata.hasNull = false ∧
      (∀ batch, file.batchId = some batch → (u.tables.batch? batch).isSome = true) ∧
      file.metadata.readBack?.isSome = true ∧ row = inTable file ∧
      v = { u with tables := { u.tables with files := u.tables.files ++ [row] } } := by
  obtain ⟨_, texts, rest⟩ := Work.run_lift_bind_eq_ok_iff.mp run
  have put : ∀ {u : UnitOfWork}, (do
      Work.setTables { u.tables with files := u.tables.files ++ [inTable file] }
      if file.metadata.readBack?.isNone then throw (.database .unreadable)
      return inTable file : Work UploadFile).run u = (.ok row, v) →
      file.metadata.readBack?.isSome = true ∧ row = inTable file ∧
        v = { u with tables := { u.tables with files := u.tables.files ++ [row] } } := by
    intro u run
    rw [Work.run_setTables_bind] at run
    split at run
    · cases run
    · rename_i readable
      cases run
      exact ⟨by simpa [Option.isSome_iff_ne_none] using readable, rfl, rfl⟩
  dsimp only at rest
  split at rest
  · cases rest
  · rename_i metadata
    rw [Work.run_tables_bind] at rest
    refine ⟨checkTexts_eq_ok_iff.mp texts, Bool.not_eq_true _ ▸ metadata, ?_⟩
    split at rest
    · rename_i batch named
      split at rest
      · cases rest
      · rename_i there
        refine ⟨fun other same => ?_, put rest⟩
        cases named.symm.trans same
        simpa only [Bool.not_eq_true, Option.isNone_eq_false_iff] using there
    · rename_i unnamed
      exact ⟨fun batch same => absurd (unnamed.symm.trans same) nofun, put rest⟩

theorem createFile_eq_ok {request : NewUploadFile} {file : UploadFile}
    (run : (settings.createFile now request : Work UploadFile).run u = (.ok file, v)) :
    file = inTable (settings.newFile (Uuid.ofSerial u.serial) request now) ∧
      [file.filename, file.contentType, file.sha256, file.errorMessage].any hasNull = false ∧
      (∀ batch, file.batchId = some batch → (u.tables.batch? batch).isSome = true) ∧
      ∃ between : UnitOfWork, between = {
          u with
          tables := { u.tables with files := u.tables.files ++ [file] }
          serial := u.serial + 1 } ∧
        if file.status = .failed then
          ∃ entry, (settings.outbox.emit now (file.event fileFailed none)).run between =
            (.ok entry, v)
        else v = between := by
  obtain ⟨_, _, rest⟩ := Work.run_lift_bind_eq_ok_iff.mp run
  rw [Work.transaction_part, Work.run_freshId_bind] at rest
  obtain ⟨row, between, inserted, rest⟩ := Stateful.run_bind_eq_ok_iff.mp rest
  obtain ⟨texts, _, batch, _, rfl, rfl⟩ := insertFile_eq_ok inserted
  split at rest
  · rename_i failed
    obtain ⟨entry, last, emitted, returned⟩ := Stateful.run_bind_eq_ok_iff.mp rest
    cases returned
    exact ⟨rfl, texts, batch, _, rfl, by rw [if_pos failed]; exact ⟨entry, emitted⟩⟩
  · rename_i accepted
    cases rest
    exact ⟨rfl, texts, batch, _, rfl, by rw [if_neg accepted]⟩

theorem createSession_eq_ok {token file : Uuid} {total : Int} {chunk : Option Int}
    {session : UploadSession}
    (run : (createSession now token file total chunk : Work UploadSession).run u = (.ok session, v)) :
    totalParts total chunk = .ok session.totalParts ∧ (u.tables.file? file).isSome = true ∧
      (∀ other ∈ u.tables.sessions, other.fileId ≠ file) ∧
      session.id = Uuid.ofSerial u.serial ∧ session.fileId = file ∧ session.status = .init ∧
      session.chunkSizeBytes = chunk.getD defaultChunkSize ∧ session.totalSizeBytes = total ∧
      session.bytesReceived = 0 ∧ session.completedParts = 0 ∧
      v = {
        u with
        tables := { u.tables with sessions := u.tables.sessions ++ [session] }
        serial := u.serial + 1 } := by
  obtain ⟨parts, planned, rest⟩ := Work.run_lift_bind_eq_ok_iff.mp run
  rw [Work.freshId_part, Work.run_freshId_bind, Work.statement_part, insertSession,
    Work.run_tables_bind] at rest
  dsimp only at rest
  split at rest
  · cases rest
  · rename_i there
    split at rest
    · cases rest
    · rename_i free
      cases rest
      refine ⟨planned, ?_, fun other member same => free ?_, rfl, rfl, rfl, rfl, rfl, rfl, rfl, rfl⟩
      · simpa only [Bool.not_eq_true, Option.isNone_eq_false_iff] using there
      · exact List.any_eq_true.mpr ⟨other, member, decide_eq_true same⟩

theorem advanceSession_eq_ok {id : Uuid} {size : Int} {isCounted : Bool}
    (run : (advanceSession now id size).run u = (.ok isCounted, v)) :
    (isCounted = true ∧ ∃ session, u.tables.session? id = some session ∧
        session.status.isTerminal = false ∧ fitsInt64 (session.bytesReceived + size) = true ∧
        v = { u with tables := u.tables.setSession (session.advanced size now) }) ∨
      isCounted = false ∧ v = u := by
  rw [advanceSession, Work.run_tables_bind] at run
  split at run
  · rename_i session found
    obtain ⟨there, running⟩ := Option.filter_eq_some_iff.mp found
    dsimp only at run
    split at run
    · cases run
    · rename_i fits
      cases run
      simp only [Bool.not_eq_true', Bool.not_eq_false, Bool.and_eq_true] at fits running
      exact .inl ⟨rfl, session, there, running, fits.1, rfl⟩
  · cases run
    exact .inr ⟨rfl, rfl⟩

theorem insertPart_eq_ok {id : Uuid} {part : NewUploadPart} {recorded : UploadPart}
    (run : (insertPart now id part).run u = (.ok recorded, v)) :
    (∀ other ∈ u.tables.parts, ¬(other.sessionId = id ∧ other.partNumber = part.partNumber)) ∧
      recorded.id = Uuid.ofSerial u.serial ∧ recorded.sessionId = id ∧
      recorded.partNumber = part.partNumber ∧ recorded.sizeBytes = part.sizeBytes ∧
      recorded.status = .received ∧
      v = {
        u with
        tables := { u.tables with parts := u.tables.parts ++ [recorded] }
        serial := u.serial + 1 } := by
  rw [insertPart, Work.run_freshId_bind] at run
  obtain ⟨_, _, run⟩ := Work.run_lift_bind_eq_ok_iff.mp run
  rw [Work.run_tables_bind] at run
  dsimp only at run
  split at run
  · cases run
  · rename_i free
    cases run
    refine ⟨fun other member same => free ?_, rfl, rfl, rfl, rfl, rfl, rfl⟩
    exact List.any_eq_true.mpr ⟨other, member, by simpa using same⟩

theorem partsOf_eq_ok {id : Uuid} {total : Int} (run : (partsOf id).run u = (.ok total, v)) :
    v = u ∧ ∃ session, u.tables.session? id = some session ∧ total = session.totalParts := by
  rw [partsOf, Work.run_tables_bind] at run
  split at run
  · rename_i session found
    cases run
    exact ⟨rfl, session, found, rfl⟩
  · cases run

theorem checkNumber_eq_ok {part : NewUploadPart} {total : Int}
    (checked : checkNumber part total = .ok ()) : 1 ≤ part.partNumber ∧ part.partNumber ≤ total := by
  unfold checkNumber at checked
  split at checked
  · cases checked
  · omega

theorem recordPart_eq_ok {id : Uuid} {part : NewUploadPart} {recorded : UploadPart}
    (run : (recordPart now id part : Work UploadPart).run u = (.ok recorded, v)) :
    0 ≤ part.sizeBytes ∧ ∃ session, u.tables.session? id = some session ∧
      1 ≤ part.partNumber ∧ part.partNumber ≤ session.totalParts ∧
      (∀ other ∈ u.tables.parts, ¬(other.sessionId = id ∧ other.partNumber = part.partNumber)) ∧
      session.status.isTerminal = false ∧
      fitsInt64 (session.bytesReceived + part.sizeBytes) = true ∧
      recorded.id = Uuid.ofSerial u.serial ∧ recorded.sessionId = id ∧
      recorded.partNumber = part.partNumber ∧ recorded.sizeBytes = part.sizeBytes ∧
      recorded.status = .received ∧
      v = {
        u with
        tables := ({ u.tables with parts := u.tables.parts ++ [recorded] } : Tables).setSession
          (session.advanced part.sizeBytes now)
        serial := u.serial + 1 } := by
  obtain ⟨⟨⟩, checked, rest⟩ := Work.run_lift_bind_eq_ok_iff.mp run
  have size : 0 ≤ part.sizeBytes := by
    unfold checkPart at checked
    split at checked
    · cases checked
    · omega
  obtain ⟨total, first, asked, rest⟩ := Stateful.run_bind_eq_ok_iff.mp rest
  obtain ⟨rfl, session, found, rfl⟩ := partsOf_eq_ok asked
  obtain ⟨⟨⟩, number, rest⟩ := Work.run_lift_bind_eq_ok_iff.mp rest
  obtain ⟨low, high⟩ := checkNumber_eq_ok number
  refine ⟨size, session, found, low, high, ?_⟩
  obtain ⟨result, last, body, returned⟩ := Stateful.run_bind_eq_ok_iff.mp rest
  rw [Work.transaction?_part] at body
  obtain ⟨put, between, inserted, rest⟩ := Stateful.run_bind_eq_ok_iff.mp body
  obtain ⟨isCounted, _, advanced, chosen⟩ := Stateful.run_bind_eq_ok_iff.mp rest
  obtain ⟨free, isNew, owner, isNumber, isSize, received, rfl⟩ := insertPart_eq_ok inserted
  rcases advanceSession_eq_ok advanced with ⟨rfl, session', there, running, fits, rfl⟩ | ⟨rfl, rfl⟩
  · cases Option.some.inj (there.symm.trans found)
    cases chosen
    cases returned
    exact ⟨free, running, fits, isNew, owner, isNumber, isSize, received, rfl⟩
  · cases chosen
    cases returned

/-- A completed session takes its file along if that is still uploading, and nothing else. -/
theorem completeSession_eq_ok {id : Uuid} {completed : UploadSession}
    (run : (settings.completeSession now id : Work UploadSession).run u = (.ok completed, v)) :
    ∃ session, u.tables.session? id = some session ∧ session.status ≠ .failed ∧
      session.status ≠ .aborted ∧
      session.totalParts ≤
        u.tables.parts.countP (fun p => p.sessionId = id && p.status = .received) ∧
      completed = session.concluded .complete now ∧
      ((∃ file entry, u.tables.file? session.fileId = some file ∧ file.status = .uploading ∧
          (settings.outbox.emit now ((file.moved .stored none now).event fileStored (some id))).run {
            u with
            tables := (u.tables.setSession completed).setFile (file.moved .stored none now) } =
              (.ok entry, v)) ∨
        (∀ file, u.tables.file? session.fileId = some file → file.status ≠ .uploading) ∧
          v = { u with tables := u.tables.setSession completed }) := by
  rw [completeSession, Work.transaction_part, Work.run_tables_bind] at run
  split at run
  · cases run
  · rename_i session found
    dsimp only at run
    split at run
    · cases run
    · rename_i status
      obtain ⟨unfailed, unaborted⟩ := not_or.mp status
      split at run
      · cases run
      · rename_i enough
        rw [Work.run_setTables_bind] at run
        obtain ⟨moved, last, first, rest⟩ := Stateful.run_bind_eq_ok_iff.mp run
        refine ⟨session, found, unfailed, unaborted, Int.not_lt.mp enough, ?_⟩
        rcases moveFile_eq_ok first with ⟨file, there, allowed, rfl, rfl⟩ | ⟨rfl, rfl, none⟩
        · obtain ⟨entry, _, emitted, returned⟩ := Stateful.run_bind_eq_ok_iff.mp rest
          cases returned
          have uploading : file.status = .uploading := by simpa using allowed
          exact ⟨rfl, .inl ⟨file, entry, there, uploading, emitted⟩⟩
        · cases rest
          refine ⟨rfl, .inr ⟨fun file there uploading => ?_, rfl⟩⟩
          have allowed : [FileStatus.uploading].contains file.status = true := by
            rw [uploading]
            rfl
          exact absurd (none.symm.trans (Option.filter_eq_some_iff.mpr ⟨there, allowed⟩)) nofun

theorem terminateSession_eq_ok {id : Uuid} {target : SessionStatus} {ended : UploadSession}
    (run : (terminateSession now id target : Work UploadSession).run u = (.ok ended, v)) :
    ∃ session, u.tables.session? id = some session ∧ session.status.isTerminal = false ∧
      ended = session.concluded target now ∧
      v = { u with tables := u.tables.setSession ended } := by
  obtain ⟨result, last, body, returned⟩ := Stateful.run_bind_eq_ok_iff.mp run
  rw [Work.statement_part, concludeSession, Work.run_tables_bind] at body
  split at body
  · rename_i session found
    obtain ⟨there, running⟩ := Option.filter_eq_some_iff.mp found
    cases body
    cases returned
    exact ⟨session, there, by simpa only [Bool.not_eq_true'] using running, rfl, rfl⟩
  · cases body
    cases returned

theorem cleanupExpiredFiles_eq_ok {cutoff : Instant} {limit : Int} {stats : CleanupStats}
    (run : (cleanupExpiredFiles cutoff limit : Work CleanupStats).run u = (.ok stats, v)) :
    v = u ∨ ∃ ids, v = { u with tables := u.tables.deleteFiles ids } := by
  rw [cleanupExpiredFiles, Work.transaction_part] at run
  dsimp only at run
  split at run
  · cases run
  · rw [Work.run_tables_bind] at run
    split at run
    · cases run
      exact .inl rfl
    · split at run
      · cases run
      · cases run
        exact .inr ⟨_, rfl⟩

theorem createBatch_eq_ok {createdBy : Option Uuid} {key : Option String} {batch : UploadBatch}
    (run : (createBatch now createdBy key : Work UploadBatch).run u = (.ok batch, v)) :
    batch.id = Uuid.ofSerial u.serial ∧ batch.status = .init ∧
      v = {
        u with
        tables := { u.tables with batches := u.tables.batches ++ [batch] }
        serial := u.serial + 1 } := by
  rw [createBatch, Work.freshId_part, Work.run_freshId_bind, Work.statement_part, insertBatch] at run
  obtain ⟨_, _, rest⟩ := Work.run_lift_bind_eq_ok_iff.mp run
  cases rest
  exact ⟨rfl, rfl, rfl⟩

theorem run_startBatch (now : Instant) (id : Uuid) (u : UnitOfWork) :
    (startBatch now id : Work UploadBatch).run u =
      match (u.tables.batch? id).filter (·.status = .init) with
      | some batch => (.ok (batch.moved .inProgress now),
          { u with tables := u.tables.setBatch (batch.moved .inProgress now) })
      | none => (.error (missed "upload_batch" id (u.tables.batch? id).isSome "init"), u) := by
  rw [startBatch, Work.statement_part, Stateful.run_bind, advanceBatch, Work.run_tables_bind]
  cases (u.tables.batch? id).filter (·.status = .init) <;> rfl

theorem startBatch_eq_ok {id : Uuid} {started : UploadBatch}
    (run : (startBatch now id : Work UploadBatch).run u = (.ok started, v)) :
    ∃ batch, u.tables.batch? id = some batch ∧ batch.status = .init ∧
      started = batch.moved .inProgress now ∧ v = { u with tables := u.tables.setBatch started } := by
  rw [run_startBatch] at run
  split at run
  · rename_i batch found
    obtain ⟨there, waiting⟩ := Option.filter_eq_some_iff.mp found
    cases run
    exact ⟨batch, there, of_decide_eq_true waiting, rfl, rfl⟩
  · cases run

/-- What is left of an announcement's result: that it was made before is no error. -/
def absorbed : Except Error OutboxEntry → Except Error Unit
  | .error e => if e.isDuplicateEvent then .ok () else .error e
  | .ok _ => .ok ()

theorem absorbed_error_eq_ok_iff {e : Error} :
    absorbed (.error e) = .ok () ↔ e.isDuplicateEvent = true := by
  simp only [absorbed, ite_eq_left_iff, reduceCtorEq, imp_false, Bool.not_eq_true, Bool.not_eq_false]

theorem run_absorbDuplicate {work : Work OutboxEntry} {result : Except Error OutboxEntry}
    (run : work.run u = (result, v)) : (absorbDuplicate work).run u = (absorbed result, v) := by
  change absorbDuplicate work u = _
  unfold absorbDuplicate
  rw [run]
  rcases result with e | entry
  · cases e <;> rfl
  · rfl

/-- A batch that is not there cannot be finalized. -/
theorem run_finalizeBatch_missing {id : Uuid} (none : u.tables.batch? id = none) :
    (settings.finalizeBatch now id : Work BatchStatus).run u =
      (.error (.notFound ("upload_batch " ++ id.text)), u) := by
  rw [finalizeBatch, Work.transaction_part, Work.run_tables_bind, none]
  rfl

theorem run_finalizeBatch_same {batch : UploadBatch}
    (found : u.tables.batch? batch.id = some batch)
    (same : u.tables.derivedStatus batch.id = batch.status) :
    (settings.finalizeBatch now batch.id : Work BatchStatus).run u =
      (.ok (u.tables.derivedStatus batch.id), u) := by
  rw [finalizeBatch, Work.transaction_part, Work.run_tables_bind, found]
  exact congrFun (if_pos same) u

/-- A status that is another one is written before it is announced. -/
theorem run_finalizeBatch_changed {batch : UploadBatch} {result : Except Error OutboxEntry}
    (found : u.tables.batch? batch.id = some batch)
    (changed : u.tables.derivedStatus batch.id ≠ batch.status)
    (emitted : (settings.outbox.emit now (u.tables.finalization batch)).run { u with
      tables := u.tables.setBatch (batch.moved (u.tables.derivedStatus batch.id) now) } = (result, v)) :
    (settings.finalizeBatch now batch.id : Work BatchStatus).run u =
      ((absorbed result).map fun _ => u.tables.derivedStatus batch.id, v) := by
  rw [finalizeBatch, Work.transaction_part, Work.run_tables_bind, found]
  refine (congrFun (if_neg changed) u).trans ?_
  refine (Work.run_setTables_bind _ _ u).trans ?_
  refine (Stateful.run_bind _ _ _).trans ?_
  have announced := run_absorbDuplicate emitted
  unfold Tables.finalization Tables.derivedStatus Tables.fileStatuses UploadBatch.moved at announced
  rw [announced]
  cases absorbed result <;> rfl

/-- Only a batch that gets another status is written, and then announced unless it was before. -/
theorem finalizeBatch_eq_ok {id : Uuid} {status : BatchStatus}
    (run : (settings.finalizeBatch now id : Work BatchStatus).run u = (.ok status, v)) :
    ∃ batch, batch.id = id ∧ u.tables.batch? id = some batch ∧ status = u.tables.derivedStatus id ∧
      (status = batch.status ∧ v = u ∨ status ≠ batch.status ∧
        ∃ result, absorbed result = .ok () ∧
          (settings.outbox.emit now (u.tables.finalization batch)).run
            { u with tables := u.tables.setBatch (batch.moved status now) } = (result, v)) := by
  cases found : u.tables.batch? id with
  | none =>
    rw [run_finalizeBatch_missing found] at run
    cases run
  | some batch =>
    cases Tables.id_of_batch? found
    refine ⟨batch, rfl, rfl, ?_⟩
    by_cases same : u.tables.derivedStatus batch.id = batch.status
    · rw [run_finalizeBatch_same found same] at run
      cases run
      exact ⟨rfl, .inl ⟨same, rfl⟩⟩
    · rcases emitted : (settings.outbox.emit now (u.tables.finalization batch)).run { u with
        tables := u.tables.setBatch (batch.moved (u.tables.derivedStatus batch.id) now) } with ⟨result, w⟩
      rw [run_finalizeBatch_changed found same emitted] at run
      rcases announced : absorbed result with e | ⟨⟩
      · rw [announced] at run
        cases run
      · rw [announced] at run
        cases run
        exact ⟨rfl, .inr ⟨same, result, announced, emitted⟩⟩

end UploadSettings

end OutboxRelay
