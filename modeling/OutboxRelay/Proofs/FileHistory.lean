import Mathlib.Data.List.Chain
import OutboxRelay.Proofs.FileStep
import OutboxRelay.Proofs.Tracking

namespace OutboxRelay

namespace FileStatus

/-- The statuses of a file, one after the other: it is born uploading or refused, and each status
leads to the next. -/
structure IsCourse (statuses : List FileStatus) : Prop where
  born : ∀ first ∈ statuses.head?, first = .uploading ∨ first = .failed
  moves : statuses.IsChain MovesTo

theorem MovesTo.ne {old new : FileStatus} (moves : old.MovesTo new) : old ≠ new := by
  cases moves with
  | deleted different => exact different
  | _ => exact nofun

theorem IsCourse.nil : IsCourse [] := ⟨nofun, .nil⟩

theorem IsCourse.single {status : FileStatus} (born : status = .uploading ∨ status = .failed) :
    IsCourse [status] :=
  ⟨fun _ first => by cases first; exact born, .singleton _⟩

theorem IsCourse.append {statuses : List FileStatus} {old new : FileStatus}
    (course : IsCourse statuses) (last : statuses.getLast? = some old) (moves : old.MovesTo new) :
    IsCourse (statuses ++ [new]) where
  born first isFirst := by
    cases statuses with
    | nil => cases last
    | cons head rest => exact course.born first isFirst
  moves := by
    refine course.moves.append (.singleton _) fun before isLast after isFirst => ?_
    cases last.symm.trans isLast
    cases isFirst
    exact moves

/-- What a file may still announce, in a row. -/
def ahead : FileStatus → List (List String)
  | .uploading => [[], [fileStored], [fileStored, fileProcessed], [fileFailed]]
  | .stored => [[], [fileProcessed]]
  | _ => [[]]

theorem announcements_ahead {status : FileStatus} {rest : List FileStatus}
    (chain : (status :: rest).IsChain MovesTo) : rest.filterMap announcement? ∈ status.ahead := by
  induction rest generalizing status with
  | nil => cases status <;> exact List.mem_cons_self
  | cons next rest ih =>
    obtain ⟨moves, others⟩ := List.isChain_cons_cons.mp chain
    have remaining := ih others
    cases moves <;>
      simp only [ahead, announcement?, List.filterMap_cons, List.mem_cons, List.not_mem_nil,
        or_false] at remaining ⊢
    · rcases remaining with none | some
      · simp [none]
      · simp [some]
    · simp [remaining]
    · simp [remaining]
    · cases status <;> simp [remaining]

/-- What a file announces in its life. -/
theorem IsCourse.announcements {statuses : List FileStatus} (course : IsCourse statuses) :
    statuses.filterMap announcement? ∈
      [[], [fileStored], [fileStored, fileProcessed], [fileFailed]] := by
  cases statuses with
  | nil => exact List.mem_cons_self
  | cons first rest =>
    have remaining := announcements_ahead course.moves
    rcases course.born first rfl with rfl | rfl
    · exact remaining
    · rw [List.filterMap_cons, List.mem_singleton.mp remaining]
      decide

end FileStatus

namespace Tables

/-- The move of a file that a call makes, if it makes one. -/
def fileMove? (t t' : Tables) (id : Uuid) (x : Transaction) : Option FileMove :=
  match t'.fileStatus? id with
  | none => none
  | some status => if t.fileStatus? id = some status then none else some (x.move status)

/-- What is known of a file when `moves` are those that it has made. -/
structure FileTrace (t : Tables) (id : Uuid) (serial : Nat) (moves : List FileMove) : Prop where
  current : ∀ status, t.fileStatus? id = some status →
    (moves.map (·.status)).getLast? = some status
  issued : moves ≠ [] → ∃ number < serial, id = Uuid.ofSerial number
  course : FileStatus.IsCourse (moves.map (·.status))

variable {t t' : Tables} {id : Uuid} {serial serial' : Nat} {moves : List FileMove}
  {x : Transaction} {emitted : OutboxTable → List OutboxEntry}

theorem fileMove?_of_none (gone : t'.fileStatus? id = none) : t.fileMove? t' id x = none := by
  rw [fileMove?, gone]

theorem fileMove?_of_same (same : t'.fileStatus? id = t.fileStatus? id) :
    t.fileMove? t' id x = none := by
  rw [fileMove?, same]
  cases t.fileStatus? id with
  | none => rfl
  | some status => exact if_pos rfl

theorem fileMove?_of_ne {status : FileStatus} (after : t'.fileStatus? id = some status)
    (before : t.fileStatus? id ≠ some status) : t.fileMove? t' id x = some (x.move status) := by
  rw [fileMove?, after]
  exact if_neg before

/-- All that is told of a file is of the move that it makes. -/
theorem FileStep.told (step : t.FileStep x id serial t' serial' emitted) (table : OutboxTable) :
    id.notices (emitted table) = (t.fileMove? t' id x).toList.flatMap (FileMove.notices table) := by
  cases step with
  | quiet same told =>
    rw [told, fileMove?_of_same same]
    rfl
  | removed gone told =>
    rw [told, fileMove?_of_none gone]
    rfl
  | born status before _ _ _ after told =>
    rw [told, fileMove?_of_ne after (by rw [before]; exact nofun)]
    exact (List.append_nil _).symm
  | moved old new before legal after told =>
    rw [told, fileMove?_of_ne after fun same => legal.ne (Option.some.inj (before.symm.trans same))]
    exact (List.append_nil _).symm

theorem FileTrace.step (trace : t.FileTrace id serial moves)
    (step : t.FileStep x id serial t' serial' emitted) (rising : serial ≤ serial')
    (room : serial' ≤ 2 ^ 128) :
    t'.FileTrace id serial' (moves ++ (t.fileMove? t' id x).toList) := by
  have later : moves ≠ [] → ∃ number < serial', id = Uuid.ofSerial number := fun some => by
    obtain ⟨number, before, same⟩ := trace.issued some
    exact ⟨number, by omega, same⟩
  cases step with
  | quiet same told =>
    rw [fileMove?_of_same same, Option.toList_none, List.append_nil]
    exact ⟨fun status now => trace.current status (same ▸ now), later, trace.course⟩
  | removed gone told =>
    rw [fileMove?_of_none gone, Option.toList_none, List.append_nil]
    exact ⟨fun status now => (nomatch gone.symm.trans now), later, trace.course⟩
  | born status before isNew taken born after _ =>
    have first : moves = [] := by
      by_contra others
      obtain ⟨number, issued, same⟩ := trace.issued others
      exact Uuid.ofSerial_ne issued (by omega) (same.symm.trans isNew)
    rw [fileMove?_of_ne after (by rw [before]; exact nofun), first]
    exact ⟨fun status now => after.symm.trans now, fun _ => ⟨serial, taken, isNew⟩, .single born⟩
  | moved old new before legal after _ =>
    have last := trace.current old before
    have others : moves ≠ [] := by
      rintro rfl
      cases last
    rw [fileMove?_of_ne after fun same => legal.ne (Option.some.inj (before.symm.trans same))]
    refine ⟨fun status now => ?_, fun _ => later others, ?_⟩
    · rw [Option.toList_some, List.map_append, List.map_singleton, List.getLast?_concat]
      exact after.symm.trans now
    · rw [Option.toList_some, List.map_append, List.map_singleton]
      exact trace.course.append last legal

end Tables

namespace Store

/-- The moves of a file in the course of a run. -/
def fileMoves (s : Store) (id : Uuid) : List Transaction → List FileMove
  | [] => []
  | x :: rest =>
    (s.tables.fileMove? (s.perform x).2.tables id x).toList ++ (s.perform x).2.fileMoves id rest

theorem fileMoves_append (s : Store) (id : Uuid) (first second : List Transaction) :
    s.fileMoves id (first ++ second) =
      s.fileMoves id first ++ (s.after first).fileMoves id second := by
  induction first generalizing s with
  | nil => rfl
  | cons x rest ih => rw [List.cons_append, fileMoves, fileMoves, ih, List.append_assoc, after_cons]

theorem emitted_append (s : Store) (table : OutboxTable) (first second : List Transaction) :
    s.emitted table (first ++ second) =
      s.emitted table first ++ (s.after first).emitted table second := by
  induction first generalizing s with
  | nil => rfl
  | cons x rest ih => rw [List.cons_append, emitted, emitted, ih, List.append_assoc, after_cons]

theorem after_fileTrace {run : List Transaction} {id : Uuid}
    (others : ∀ x ∈ run, ∀ event ∈ x.call.events, event.resolvedKey ≠ id.fileKey)
    (room : (({} : Store).after run).serial ≤ 2 ^ 128) :
    (({} : Store).after run).tables.FileTrace id (({} : Store).after run).serial
        (({} : Store).fileMoves id run) ∧
      ∀ table, id.notices (({} : Store).emitted table run) =
        (({} : Store).fileMoves id run).flatMap (FileMove.notices table) := by
  induction run using List.reverseRecOn with
  | nil => exact ⟨⟨nofun, fun none => absurd rfl none, .nil⟩, fun _ => rfl⟩
  | append_singleton before x ih =>
    rw [after_append, after_cons, after_nil] at room ⊢
    have rising := (({} : Store).after before).serial_le_perform x
    obtain ⟨trace, told⟩ := ih
      (fun y member => others y (List.mem_append_left _ member)) (rising.trans room)
    have step := (({} : Store).after before).perform_file x id
      (others x (List.mem_append_right _ List.mem_cons_self)) fun taken there isNew => by
        obtain ⟨number, issued, same⟩ := trace.issued fun none => by
          obtain ⟨status, now⟩ := Option.isSome_iff_exists.mp there
          have last := trace.current status now
          rw [none] at last
          cases last
        exact Uuid.ofSerial_ne issued (by omega) (same.symm.trans isNew)
    rw [fileMoves_append]
    simp only [fileMoves, List.append_nil]
    refine ⟨trace.step step rising room, fun table => ?_⟩
    rw [emitted_append, List.flatMap_append, ← told table, ← step.told table]
    simp only [emitted, List.append_nil, Uuid.notices, List.filter_append, List.map_append]

end Store

/-- The file that a call is to move, and the statuses from which it may. -/
def Call.fileSources? : Call → Option (Uuid × List FileStatus)
  | .markFileStored id => some (id, [.uploading])
  | .markFileProcessed id => some (id, [.stored])
  | .markFileFailed id _ => some (id, [.uploading])
  | .markFileDeleted id => some (id, [.uploading, .stored, .processed, .failed])
  | _ => none

/-- The text that a call is to write to a file. -/
def Call.fileMessage? : Call → Option String
  | .markFileFailed _ message => some message
  | _ => none

/-- The answer to a call that finds no file, or a file in another status. A message that cannot be
stored is refused before that. -/
def Call.refusal (call : Call) (id : Uuid) (sources : List FileStatus)
    (status : Option FileStatus) : Error :=
  if call.fileMessage?.toList.any hasNull then .database .nullCharacter
  else match status with
    | some _ => .invalidTransition "upload_file" id
        (String.intercalate " or " (sources.map FileStatus.name))
    | none => .notFound ("upload_file " ++ id.text)

theorem UploadSettings.run_transitionFile_refused {settings : UploadSettings} {now : Instant}
    {id : Uuid} {sources : List FileStatus} {target : FileStatus} {message eventType : Option String}
    {u : UnitOfWork}
    (other : ∀ status, u.tables.fileStatus? id = some status → sources.contains status = false) :
    (settings.transitionFile now id sources target message eventType : Work UploadFile).run u =
      (.error (if message.toList.any hasNull then .database .nullCharacter
        else missed "upload_file" id (u.tables.file? id).isSome
          (String.intercalate " or " (sources.map FileStatus.name))), u) := by
  have none : (u.tables.file? id).filter (fun file => sources.contains file.status) = none := by
    refine Option.filter_eq_none_iff.mpr fun file found => ?_
    rw [other file.status (by rw [Tables.fileStatus?, found, Option.map_some])]
    exact Bool.false_ne_true
  have looked := run_moveFile now id sources target message u
  rw [none] at looked
  rw [transitionFile, Work.transaction?_part]
  by_cases null : message.toList.any hasNull = true
  · rw [if_pos null] at looked ⊢
    exact Stateful.run_bind_error (Stateful.run_bind_error looked)
  · rw [if_neg null] at looked ⊢
    dsimp only at looked
    rw [bind_assoc, Stateful.run_bind_ok looked]
    rfl

namespace Store

/-- A call that finds no file to move, or finds it in another status, is refused and does nothing. -/
theorem perform_refused (s : Store) {x : Transaction} {id : Uuid} {sources : List FileStatus}
    (moves : x.call.fileSources? = some (id, sources))
    (other : ∀ status, s.tables.fileStatus? id = some status → sources.contains status = false) :
    s.perform x = (.error (x.call.refusal id sources (s.tables.fileStatus? id)), s) := by
  obtain ⟨db, now, call⟩ := x
  have refused : ∀ {target message eventType},
      ((Call.run db now call : Work Reply) = Reply.file <$>
        db.uploads.transitionFile now id sources target message eventType) →
      call.fileMessage? = message →
      s.perform ⟨db, now, call⟩ = (.error (call.refusal id sources (s.tables.fileStatus? id)), s) := by
    intro target message eventType isRun isMessage
    have run : (db.uploads.transitionFile now id sources target message eventType : Work _).run
        s.begin = _ := UploadSettings.run_transitionFile_refused other
    refine (perform_map_error isRun run).trans (congrArg (fun e => (Except.error e, s)) ?_)
    unfold Call.refusal Tables.fileStatus?
    rw [isMessage]
    cases found : s.tables.file? id <;> simp only [begin, found, missed] <;> rfl
  cases call <;> cases moves
  all_goals exact refused rfl rfl

/-- A session that is completed leaves a file alone that is not uploading. -/
theorem perform_completeSession (s : Store) {x : Transaction} {session : Uuid}
    {completed : UploadSession} (isComplete : x.call = .completeSession session)
    (done : (s.perform x).1 = .ok (.session completed))
    (other : s.tables.fileStatus? completed.fileId ≠ some .uploading) :
    (s.perform x).2.tables.files = s.tables.files ∧ ∀ table, s.emissions table x = [] := by
  obtain ⟨db, now, call⟩ := x
  cases isComplete
  rcases s.perform_cases ⟨db, now, .completeSession session⟩ with
    ⟨e, failed, _, _⟩ | ⟨reply, u, run, performed, _⟩
  · cases failed.symm.trans done
  · obtain ⟨same, run, isReply⟩ := Stateful.run_map_eq_ok run
    rw [performed] at done
    cases isReply.symm.trans (Except.ok.inj done)
    obtain ⟨opened, _, _, _, _, rfl, rest⟩ := UploadSettings.completeSession_eq_ok run
    rcases rest with ⟨file, _, found, uploading, _⟩ | ⟨_, isUnit⟩
    · refine absurd ?_ other
      change (s.tables.file? opened.fileId).map (·.status) = some .uploading
      rw [show s.tables.file? opened.fileId = some file from found, Option.map_some, uploading]
    · subst isUnit
      have adds : s.EmitsAdded ⟨db, now, .completeSession session⟩ := fun _ => rfl
      refine ⟨by rw [performed]; rfl, fun table => adds.emissions ?_⟩
      rw [performed, List.append_nil]
      exact Tables.outbox_congr rfl rfl table

/-- The life of a file in the course of a run, and what is told of it. -/
structure FileLife (run : List Transaction) (id : Uuid) : Prop where
  current : ∀ status, (({} : Store).after run).tables.fileStatus? id = some status →
    ((({} : Store).fileMoves id run).map (·.status)).getLast? = some status
  course : FileStatus.IsCourse ((({} : Store).fileMoves id run).map (·.status))
  /-- Each outbox table has got an event for each move that was to be told there, in that order, and
  no other event of the file. -/
  told : ∀ table, id.notices (({} : Store).emitted table run) =
    (({} : Store).fileMoves id run).flatMap (FileMove.notices table)
  announced : ((({} : Store).fileMoves id run).map (·.status)).filterMap FileStatus.announcement? ∈
    [[], [fileStored], [fileStored, fileProcessed], [fileFailed]]
  refused : ∀ (x : Transaction) (sources : List FileStatus),
    x.call.fileSources? = some (id, sources) →
    (∀ status, (({} : Store).after run).tables.fileStatus? id = some status →
      sources.contains status = false) →
    (({} : Store).after run).perform x =
      (.error (x.call.refusal id sources ((({} : Store).after run).tables.fileStatus? id)),
        ({} : Store).after run)
  bystander : ∀ (x : Transaction) (session : Uuid) (completed : UploadSession),
    x.call = .completeSession session →
    ((({} : Store).after run).perform x).1 = .ok (.session completed) →
    (({} : Store).after run).tables.fileStatus? completed.fileId ≠ some .uploading →
    ((({} : Store).after run).perform x).2.tables.files = (({} : Store).after run).tables.files ∧
      ∀ table, (({} : Store).after run).emissions table x = []

/-- Files and their events move together, whatever calls are made, as long as nobody else emits
under the key of the file. -/
theorem files_and_events (run : List Transaction) (id : Uuid)
    (others : ∀ x ∈ run, ∀ event ∈ x.call.events, event.resolvedKey ≠ id.fileKey)
    (room : (({} : Store).after run).serial ≤ 2 ^ 128) : FileLife run id := by
  obtain ⟨trace, told⟩ := after_fileTrace others room
  exact ⟨trace.current, trace.course, told, trace.course.announcements,
    fun _ _ moves other => perform_refused _ moves other,
    fun _ _ _ isComplete done other => perform_completeSession _ isComplete done other⟩

/-- The theorem about a file that a session stores, that is processed, fails too late and is deleted. -/
theorem files_and_events_processed :
    let time : Instant := ⟨1767225600, 0⟩
    let call : Call → Transaction := fun call => ⟨{}, time, call⟩
    let id := Uuid.ofSerial 0
    let session := Uuid.ofSerial 1
    let run := [call (.createFile { filename := "a.txt", sizeBytes := 10 }),
      call (.createSession .nil id 10 none), call (.emit ⟨"UploadFile", "1", fileStored, none, none⟩),
      call (.recordPart session { partNumber := 1, offsetBytes := 0, sizeBytes := 10 }),
      call (.completeSession session), call (.markFileProcessed id),
      call (.markFileFailed id "too late"), call (.markFileDeleted id)]
    (∀ x ∈ run, ∀ event ∈ x.call.events, event.resolvedKey ≠ id.fileKey) ∧
      (({} : Store).after run).serial ≤ 2 ^ 128 ∧ FileLife run id ∧
      (({} : Store).fileMoves id run).map (·.status) = [.uploading, .stored, .processed, .deleted] ∧
      (id.notices (({} : Store).emitted .core run)).map (fun told => (told.eventType, told.session.isSome)) =
        [(fileStored, true), (fileProcessed, false)] := by
  intro time call id session run
  have others : ∀ x ∈ run, ∀ event ∈ x.call.events, event.resolvedKey ≠ id.fileKey := by
    decide +kernel
  have room : (({} : Store).after run).serial ≤ 2 ^ 128 := by decide +kernel
  exact ⟨others, room, files_and_events run id others room, by decide +kernel, by decide +kernel⟩

end Store

end OutboxRelay
