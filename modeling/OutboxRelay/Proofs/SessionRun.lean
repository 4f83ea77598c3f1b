import OutboxRelay.Proofs.FileStep
import OutboxRelay.Proofs.FileTexts
import OutboxRelay.Proofs.SessionHistory

namespace OutboxRelay

namespace Tables
variable {t : Tables} {session changed : UploadSession}

theorem session?_setSession (t : Tables) (changed : UploadSession) (id : Uuid) :
    (t.setSession changed).session? id =
      (t.session? id).map fun row => if row.id = changed.id then changed else row :=
  find?_replace UploadSession.id t.sessions changed id

theorem session?_congr {t' : Tables} (sessions : t'.sessions = t.sessions) (id : Uuid) :
    t'.session? id = t.session? id := by
  rw [session?, session?, sessions]

theorem file?_congr {t' : Tables} (files : t'.files = t.files) (id : Uuid) :
    t'.file? id = t.file? id := by
  rw [file?, file?, files]

theorem session?_setSession_self (changed : UploadSession) {old : UploadSession}
    (found : t.session? changed.id = some old) :
    (t.setSession changed).session? changed.id = some changed := by
  rw [session?_setSession, found, Option.map_some, if_pos (id_of_session? found)]

/-- Of two writes to a session the last counts. -/
theorem setSession_setSession (t : Tables) (session : UploadSession)
    (same : changed.id = session.id) :
    (t.setSession session).setSession changed = t.setSession changed := by
  have rows : (t.setSession session).sessions.map (fun row => if row.id = changed.id then changed
      else row) = t.sessions.map fun row => if row.id = changed.id then changed else row := by
    rw [setSession, List.map_map]
    refine List.map_congr_left fun row _ => ?_
    by_cases isRow : row.id = session.id <;> simp [isRow, same]
  unfold setSession at rows ⊢
  rw [rows]

/-- A session that is written as it is. -/
theorem setSession_of_only (only : ∀ row ∈ t.sessions, row.id = session.id → row = session) :
    t.setSession session = t := by
  have rows : t.sessions.map (fun row => if row.id = session.id then session else row) =
      t.sessions := by
    refine (List.map_congr_left fun row member => ?_).trans (List.map_id _)
    split
    · exact (only row member ‹_›).symm
    · rfl
  unfold setSession
  rw [rows]

theorem file?_setFile_self {old file : UploadFile} (found : t.file? file.id = some old) :
    (t.setFile file).file? file.id = some file := by
  rw [file?_setFile, found, Option.map_some, if_pos (id_of_file? found)]

end Tables

theorem SessionStatus.completable_of_running {status : SessionStatus}
    (running : status.isTerminal = false) : ¬(status = .failed ∨ status = .aborted) := by
  rintro (rfl | rfl) <;> cases running

/-- The row of a part that is recorded. -/
def NewUploadPart.received (part : NewUploadPart) (id session : Uuid) (now : Instant) :
    UploadPart where
  id
  sessionId := session
  partNumber := part.partNumber
  offsetBytes := part.offsetBytes
  sizeBytes := part.sizeBytes
  sha256 := part.sha256.getD ""
  status := .received
  tempStorageKey := part.tempStorageKey.getD ""
  createdAt := now.stored
  updatedAt := now.stored

theorem checkPart_eq_ok_iff {part : NewUploadPart} :
    UploadSettings.checkPart part = .ok () ↔
      0 ≤ part.offsetBytes ∧ 0 ≤ part.sizeBytes ∧ ¬MalformedSha256 part.sha256 := by
  rw [UploadSettings.checkPart, ← checkSha256_eq_ok_iff]
  split
  · exact ⟨nofun, fun fine => by omega⟩
  · exact ⟨fun fine => ⟨by omega, by omega, fine⟩, fun fine => fine.2.2⟩

namespace UploadSettings
variable {settings : UploadSettings} {u : UnitOfWork} (session : UploadSession)
  {part : NewUploadPart} (now : Instant)

theorem run_advanceSession {size : Int} (found : u.tables.session? session.id = some session)
    (running : session.status.isTerminal = false)
    (bytes : fitsInt64 (session.bytesReceived + size) = true)
    (count : fitsInt32 (session.completedParts + 1) = true) :
    (advanceSession now session.id size).run u =
      (.ok true, { u with tables := u.tables.setSession (session.advanced size now) }) := by
  have open' : (some session).filter (fun row => !row.status.isTerminal) = some session := by
    rw [Option.filter_some, running]
    rfl
  rw [advanceSession, Work.run_tables_bind, found, open']
  dsimp only
  rw [bytes, count]
  rfl

/-- A part whose number is free is put there. -/
theorem run_insertPart (id : Uuid) (key : part.tempStorageKey.toList.any hasNull = false)
    (free : ∀ other ∈ u.tables.partsOf id, other.partNumber ≠ part.partNumber) :
    (insertPart now id part).run u = (.ok (part.received (Uuid.ofSerial u.serial) id now), { u with
      tables := { u.tables with parts := u.tables.parts ++
        [part.received (Uuid.ofSerial u.serial) id now] }
      serial := u.serial + 1 }) := by
  have texts : checkTexts part.tempStorageKey.toList = .ok () := checkTexts_eq_ok_iff.mpr key
  have first : ¬(u.tables.parts.any fun p =>
      p.sessionId = id && p.partNumber = part.partNumber) = true := by
    intro taken
    obtain ⟨other, member, same⟩ := List.any_eq_true.mp taken
    rw [Bool.and_eq_true, decide_eq_true_eq] at same
    exact free other (List.mem_filter.mpr ⟨member, decide_eq_true same.1⟩) (of_decide_eq_true same.2)
  rw [insertPart, Work.run_freshId_bind, texts, Stateful.run_bind_ok (Stateful.run_lift _ _),
    Work.run_tables_bind]
  dsimp only
  rw [if_neg first]
  rfl

/-- A part that nothing speaks against is recorded and counted. -/
theorem run_recordPart (found : u.tables.session? session.id = some session)
    (fine : checkPart part = .ok ()) (low : 1 ≤ part.partNumber)
    (high : part.partNumber ≤ session.totalParts)
    (key : part.tempStorageKey.toList.any hasNull = false)
    (free : ∀ other ∈ u.tables.partsOf session.id, other.partNumber ≠ part.partNumber)
    (running : session.status.isTerminal = false)
    (bytes : fitsInt64 (session.bytesReceived + part.sizeBytes) = true)
    (count : fitsInt32 (session.completedParts + 1) = true) :
    (recordPart now session.id part : Work UploadPart).run u =
      (.ok (part.received (Uuid.ofSerial u.serial) session.id now), { u with
        tables := ({ u.tables with parts := u.tables.parts ++
            [part.received (Uuid.ofSerial u.serial) session.id now] } : Tables).setSession
          (session.advanced part.sizeBytes now)
        serial := u.serial + 1 }) := by
  let added : UnitOfWork := { u with
    tables := { u.tables with parts := u.tables.parts ++
      [part.received (Uuid.ofSerial u.serial) session.id now] }
    serial := u.serial + 1 }
  have asked : (partsOf session.id).run u = (.ok session.totalParts, u) := by
    rw [partsOf, Work.run_tables_bind, found]
    rfl
  have number : checkNumber part session.totalParts = .ok () := if_neg (by omega)
  have inserted := run_insertPart now session.id key free
  have counted := run_advanceSession (u := added) session now found running bytes count
  have within := Stateful.run_bind_ok (f := fun recorded => do
    let isCounted ← advanceSession now session.id part.sizeBytes
    return if isCounted then some recorded else none) inserted
  rw [Stateful.run_bind_ok counted] at within
  rw [recordPart, fine, Stateful.run_bind_ok (Stateful.run_lift _ _), Work.statement_part,
    Stateful.run_bind_ok asked, number, Stateful.run_bind_ok (Stateful.run_lift _ _),
    Work.transaction?_part]
  exact (Stateful.run_bind_ok within).trans rfl

/-- A session that lacks parts is not completed. -/
theorem run_completeSession_early (found : u.tables.session? session.id = some session)
    (running : session.status.isTerminal = false) {count : Nat}
    (received : (u.tables.partsOf session.id).countP (·.status = .received) = count)
    (early : (count : Int) < session.totalParts) :
    (settings.completeSession now session.id : Work UploadSession).run u =
      (.error (.incompleteUpload session.id count session.totalParts), u) := by
  have status := SessionStatus.completable_of_running running
  rw [completeSession, Work.transaction_part, Work.run_tables_bind, found]
  dsimp only
  rw [if_neg status, u.tables.countP_partsOf, received, if_pos early]
  rfl

/-- A session that has all its parts takes its file along if that is still uploading. -/
theorem run_completeSession_enough (found : u.tables.session? session.id = some session)
    (status : ¬(session.status = .failed ∨ session.status = .aborted))
    (enough : session.totalParts ≤ (u.tables.partsOf session.id).countP (·.status = .received)) :
    (settings.completeSession now session.id : Work UploadSession).run u =
      match (u.tables.file? session.fileId).filter (·.status = .uploading) with
      | some file =>
        ((fun _ => session.concluded .complete now) <$> settings.outbox.emit now
          ((file.moved .stored none now).event fileStored (some session.id))).run { u with
            tables := (u.tables.setSession (session.concluded .complete now)).setFile
              (file.moved .stored none now) }
      | none => (.ok (session.concluded .complete now),
          { u with tables := u.tables.setSession (session.concluded .complete now) }) := by
  let completed : UnitOfWork :=
    { u with tables := u.tables.setSession (session.concluded .complete now) }
  have moves := run_moveFile now session.fileId [.uploading] .stored none completed
  have sources : (fun file : UploadFile => [FileStatus.uploading].contains file.status) =
      fun file => decide (file.status = .uploading) := by
    funext file
    cases file.status <;> rfl
  have sameFile : completed.tables.file? session.fileId = u.tables.file? session.fileId := rfl
  rw [sources, sameFile] at moves
  rw [completeSession, Work.transaction_part, Work.run_tables_bind, found]
  dsimp only
  rw [if_neg status, u.tables.countP_partsOf, if_neg (Int.not_lt.mpr enough),
    Work.run_setTables_bind]
  cases isFile : (u.tables.file? session.fileId).filter (·.status = .uploading) with
  | none =>
    rw [isFile] at moves
    exact Stateful.run_bind_ok moves
  | some file =>
    rw [isFile] at moves
    refine (Stateful.run_bind_ok moves).trans ?_
    dsimp only
    rw [map_eq_pure_bind]
    rfl

/-- The file that a session stores is announced, unless it was before. -/
theorem run_completeSession_stored (found : u.tables.session? session.id = some session)
    (status : ¬(session.status = .failed ∨ session.status = .aborted))
    (enough : session.totalParts ≤ (u.tables.partsOf session.id).countP (·.status = .received))
    {file : UploadFile} (isFile : u.tables.file? session.fileId = some file)
    (uploading : file.status = .uploading) (clean : file.Clean) (usable : u.isAborted = false)
    (limit : settings.outbox.Storable)
    (unused : ∀ row ∈ u.tables.outbox settings.outbox.table, row.id ≠ Uuid.ofSerial u.serial)
    (free : OutboxRows.hasKey (u.tables.outbox settings.outbox.table) fileStored file.id.fileKey =
      false) :
    let moved := file.moved .stored none now
    let done := session.concluded .complete now
    let written : UnitOfWork := { u with tables := (u.tables.setSession done).setFile moved }
    (settings.completeSession now session.id : Work UploadSession).run u =
      (.ok done, written.emitting settings.outbox now (moved.event fileStored (some session.id))) := by
  intro moved done written
  have kept : written.tables.outbox settings.outbox.table = u.tables.outbox settings.outbox.table :=
    Tables.outbox_congr rfl rfl _
  have key : (moved.event fileStored (some session.id)).resolvedKey = file.id.fileKey :=
    moved.event_key fileStored (some session.id)
  have event := (clean.moved (rfl : none.toList.any hasNull = false) .stored now).event_storable
    (by decide : hasNull fileStored = false) (some session.id)
  have readable := Option.isSome_of_eq_some (moved.readBack?_event fileStored (some session.id))
  have emitted := UnitOfWork.emit_of_free (u := written) usable limit event readable (kept ▸ unused)
    (by rw [kept]; exact key.symm ▸ free) now
  have waiting : (some file).filter (·.status = .uploading) = some file :=
    Option.filter_eq_some_iff.mpr ⟨rfl, decide_eq_true uploading⟩
  rw [run_completeSession_enough session now found status enough, isFile, waiting]
  dsimp only
  rw [Stateful.run_map, emitted]
  rfl

end UploadSettings

namespace Store
variable {s : Store} {x : Transaction}

/-- A session is complete, has all its parts, and its file does not wait for it. -/
structure Settled (s : Store) (done : UploadSession) : Prop where
  found : s.tables.session? done.id = some done
  status : done.status = .complete
  enough : done.totalParts ≤ (s.tables.partsOf done.id).countP (·.status = .received)
  left : ∀ file, s.tables.file? done.fileId = some file → file.status ≠ .uploading

namespace Settled
variable {done : UploadSession}

/-- To complete it once more writes the time, and nothing else. -/
theorem perform (settled : s.Settled done) (isComplete : x.call = .completeSession done.id) :
    s.perform x = (.ok (.session (done.concluded .complete x.now)),
      { s with tables := s.tables.setSession (done.concluded .complete x.now) }) := by
  obtain ⟨db, now, call⟩ := x
  cases isComplete
  have status : ¬(done.status = .failed ∨ done.status = .aborted) := by
    rw [settled.status]
    decide
  have none : (s.begin.tables.file? done.fileId).filter (·.status = .uploading) = none :=
    Option.filter_eq_none_iff.mpr fun file found uploading =>
      settled.left file found (of_decide_eq_true uploading)
  have run : (db.uploads.completeSession now done.id : Work UploadSession).run s.begin = _ :=
    UploadSettings.run_completeSession_enough done now settled.found status settled.enough
  rw [none] at run
  refine (perform_map_ok rfl run).trans ?_
  rw [commit_of_no_hooks s rfl]
  rfl

theorem next (settled : s.Settled done) (now : Instant) :
    ({ s with tables := s.tables.setSession (done.concluded .complete now) } : Store).Settled
      (done.concluded .complete now) where
  found := Tables.session?_setSession_self (done.concluded .complete now) settled.found
  status := rfl
  enough := settled.enough
  left := settled.left

/-- However often it is completed, only the time differs. -/
theorem again (settled : s.Settled done) {more : List Transaction}
    (calls : ∀ y ∈ more, y.call = .completeSession done.id)
    (isComplete : x.call = .completeSession done.id) :
    ∃ later : UploadSession, later.IsStill done ∧ (s.after more).perform x =
      (.ok (.session later), { s with tables := s.tables.setSession later }) := by
  induction more generalizing s done with
  | nil =>
    exact ⟨_, UploadSession.concluded_isStill settled.status x.now, settled.perform isComplete⟩
  | cons y rest ih =>
    have first := settled.perform (calls y List.mem_cons_self)
    obtain ⟨later, still, last⟩ := ih (settled.next y.now)
      (fun z member => calls z (List.mem_cons_of_mem y member)) isComplete
    refine ⟨later, still.trans (UploadSession.concluded_isStill settled.status y.now), ?_⟩
    have same : later.id = done.id := (congrArg UploadSession.id (show later = _ from still) :)
    rw [after_cons, first, last]
    rw [Tables.setSession_setSession s.tables (done.concluded .complete y.now) same]

end Settled

/-- What comes of a call that completes a session, whose file is stored then: that is announced
once, and further calls to complete the session change no more than the time of its last change. -/
structure Completes (s : Store) (x : Transaction) (file : UploadFile) (done : UploadSession)
    (s' : Store) : Prop where
  performed : s.perform x = (.ok (.session done), s')
  status : done.status = .complete
  found : s'.tables.session? done.id = some done
  stored : s'.tables.file? file.id = some (file.moved .stored none x.now)
  announced : ∃ entry, entry.eventType = fileStored ∧ entry.idempotencyKey = file.id.fileKey ∧
    ∀ table, s'.rows table =
      s.rows table ++ if x.db.uploads.outbox.table = table then [entry] else []
  again : ∀ more y, (∀ z ∈ more, z.call = .completeSession done.id) →
    y.call = .completeSession done.id →
    ∃ later : UploadSession, later.IsStill done ∧ (s'.after more).perform y =
      (.ok (.session later), { s' with tables := s'.tables.setSession later })

theorem perform_complete (session : UploadSession) {file : UploadFile}
    (isComplete : x.call = .completeSession session.id)
    (found : s.tables.session? session.id = some session)
    (status : ¬(session.status = .failed ∨ session.status = .aborted))
    (enough : session.totalParts ≤ (s.tables.partsOf session.id).countP (·.status = .received))
    (isFile : s.tables.file? session.fileId = some file) (uploading : file.status = .uploading)
    (clean : file.Clean) (limit : x.db.uploads.outbox.Storable) (fresh : s.begin.Fresh 1)
    (free : (s.rows x.db.uploads.outbox.table).hasKey fileStored file.id.fileKey = false) :
    ∃ s', s.Completes x file (session.concluded .complete x.now) s' := by
  obtain ⟨db, now, call⟩ := x
  cases isComplete
  have run := UploadSettings.run_completeSession_stored (u := s.begin) session now found status
    enough isFile uploading clean rfl limit
    (fun row member => fresh _ row member 0 Nat.zero_lt_one) free
  let done := session.concluded .complete now
  let moved := file.moved .stored none now
  let written : UnitOfWork := { s.begin with tables := (s.tables.setSession done).setFile moved }
  let event := moved.event fileStored (some session.id)
  let s' := s.commit (written.emitting db.uploads.outbox now event)
  have sessions : s'.tables.sessions = (s.tables.setSession done).sessions :=
    Tables.sessions_setOutbox _ _ _
  have isDone : s'.tables.session? session.id = some done :=
    (Tables.session?_congr sessions session.id).trans (Tables.session?_setSession_self done found)
  have files : s'.tables.files = (s.tables.setFile moved).files := Tables.files_setOutbox _ _ _
  have same : file.id = session.fileId := Tables.id_of_file? isFile
  have isMoved : s'.tables.file? session.fileId = some moved := by
    rw [Tables.file?_congr files, ← same]
    exact Tables.file?_setFile_self (same ▸ isFile)
  have settled : s'.Settled done := {
    found := isDone
    status := rfl
    enough := by
      have parts : s'.tables.parts = s.tables.parts := Tables.parts_setOutbox _ _ _
      rwa [Tables.partsOf_congr parts]
    left := fun row isRow => by
      cases isMoved.symm.trans isRow
      exact (by decide : FileStatus.stored ≠ .uploading) }
  refine ⟨s', {
    performed := perform_map_ok rfl run
    status := rfl
    found := isDone
    stored := same ▸ isMoved
    announced := ⟨db.uploads.outbox.newEntry (Uuid.ofSerial s.serial) event now, rfl,
      moved.event_key fileStored (some session.id), fun table => ?_⟩
    again := fun more y calls isComplete => settled.again calls isComplete }⟩
  refine (written.emitting_rows db.uploads.outbox now event table).trans ?_
  exact congrArg (· ++ _) (Tables.outbox_congr rfl rfl table)

end Store

end OutboxRelay
