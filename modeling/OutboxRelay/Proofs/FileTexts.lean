import OutboxRelay.Proofs.BatchEvents
import OutboxRelay.Proofs.DigitText

namespace OutboxRelay

theorem hasNull_toString_int (n : Int) : hasNull (toString n) = false := by
  cases n with
  | ofNat n => exact hasNull_toString_nat n
  | negSucc n =>
    change hasNull ("-" ++ toString (n + 1)) = false
    rw [hasNull_append, hasNull_toString_nat]
    decide

namespace Instant

/-- The marks between the digits of a time. -/
def marks : List Char := ['-', '+', 'T', ':', '.', 'Z']

theorem digit_or_mark_of_mem_yearText {year : Int} {c : Char} (member : c ∈ yearText year) :
    c.isDigit = true ∨ c ∈ marks := by
  have sign : (if year < 0 then '-' else '+') ∈ marks := by split <;> decide
  unfold yearText at member
  split at member
  · exact .inl (isDigit_of_mem_padDigits member)
  · rcases List.mem_cons.mp member with rfl | digits
    · exact .inr sign
    · exact .inl (isDigit_of_mem_padDigits digits)

theorem digit_or_mark_of_mem_fractionText {nanos : Nat} {c : Char}
    (member : c ∈ fractionText nanos) : c.isDigit = true ∨ c ∈ marks := by
  have point : ∀ width n, c ∈ '.' :: fixedDigits width n → c.isDigit = true ∨ c ∈ marks := by
    intro width n among
    rcases List.mem_cons.mp among with rfl | digits
    · exact .inr (by decide)
    · exact .inl (isDigit_of_mem_fixedDigits digits)
  unfold fractionText at member
  split_ifs at member
  · cases member
  · exact point _ _ member
  · exact point _ _ member
  · exact point _ _ member

theorem digit_or_mark_of_mem_chars {t : Instant} {c : Char} (member : c ∈ t.chars) :
    c.isDigit = true ∨ c ∈ marks := by
  have digits : ∀ n, c ∈ fixedDigits 2 n → c.isDigit = true ∨ c ∈ marks :=
    fun _ among => .inl (isDigit_of_mem_fixedDigits among)
  unfold chars at member
  simp only [List.mem_append, List.mem_cons, List.not_mem_nil, or_false] at member
  rcases member with year | rfl | month | rfl | day | rfl | hour | rfl | minute | rfl | second |
    fraction | rfl
  · exact digit_or_mark_of_mem_yearText year
  · exact .inr (by decide)
  · exact digits _ month
  · exact .inr (by decide)
  · exact digits _ day
  · exact .inr (by decide)
  · exact digits _ hour
  · exact .inr (by decide)
  · exact digits _ minute
  · exact .inr (by decide)
  · exact digits _ second
  · exact digit_or_mark_of_mem_fractionText fraction
  · exact .inr (by decide)

theorem hasNull_text (t : Instant) : hasNull t.text = false := by
  have marks : ∀ c ∈ marks, c.toNat ≠ 0 := fun c member =>
    of_decide_eq_true (List.all_eq_true.mp
      (by decide : (marks.all fun c => decide (c.toNat ≠ 0)) = true) c member)
  refine hasNull_eq_false_iff.mpr fun c member => ?_
  rw [text, String.toList_ofList] at member
  exact (digit_or_mark_of_mem_chars member).elim toNat_ne_zero_of_isDigit (marks c)

end Instant

theorem PayloadBuilder.hasNull_optional {builder : PayloadBuilder} {name : String}
    {value : Option Json} (others : builder.build.hasNull = false) (clean : hasNull name = false)
    (clean' : ∀ v, value = some v → v.hasNull = false) :
    (builder.optional name value).build.hasNull = false := by
  cases value with
  | none => exact others
  | some v => exact PayloadBuilder.hasNull_field others clean (clean' v rfl)

/-- A digest that is there, and not one. -/
def MalformedSha256 (sha256 : Option String) : Prop :=
  ∃ digest, sha256 = some digest ∧ digest ≠ "" ∧ isSha256Hex digest = false

theorem checkSha256_eq_ok_iff {sha256 : Option String} :
    checkSha256 sha256 = .ok () ↔ ¬MalformedSha256 sha256 := by
  unfold checkSha256 MalformedSha256
  cases sha256 with
  | none => simp
  | some digest =>
    by_cases empty : digest = ""
    · simp [empty]
    · cases hex : isSha256Hex digest <;> simp [empty, hex, String.isEmpty_iff]

namespace UploadFile
variable {file : UploadFile}

/-- A file whose texts the tables can hold. -/
def Clean (file : UploadFile) : Prop :=
  [file.filename, file.contentType, file.sha256, file.errorMessage].any hasNull = false

/-- An outbox can hold every event of a file that the tables can hold. -/
theorem Clean.event_storable (clean : file.Clean) {eventType : String}
    (clean' : hasNull eventType = false) (session : Option Uuid) :
    (file.event eventType session).Storable where
  texts := by
    have constants : hasNull "UploadFile" = false ∧ hasNull "UploadFile:" = false := by decide
    rw [event_key, Uuid.fileKey]
    simp only [event, List.any_cons, List.any_nil, hasNull_append, Uuid.hasNull_text, constants,
      clean', Bool.or_false]
  payload := by
    simp only [Clean, List.any_cons, List.any_nil, Bool.or_eq_false_iff] at clean
    obtain ⟨filename, contentType, sha256, errorMessage, _⟩ := clean
    have statuses : ∀ s : FileStatus, s.toJson.hasNull = false := by
      intro s
      cases s <;> decide
    have ids : ∀ (id : Option Uuid) v, id.map Json.ofUuid = some v → v.hasNull = false := by
      intro id v isSome
      obtain ⟨id, _, rfl⟩ := Option.map_eq_some_iff.mp isSome
      exact id.hasNull_text
    change (PayloadBuilder.build _).hasNull = false
    refine PayloadBuilder.hasNull_field (PayloadBuilder.hasNull_optional ?_ (by decide) ?_)
      (by decide) file.updatedAt.hasNull_text
    · iterate 5 refine PayloadBuilder.hasNull_field ?_ (by decide) ?_
      · refine PayloadBuilder.hasNull_optional (PayloadBuilder.hasNull_optional
          (PayloadBuilder.hasNull_field ?_ (by decide) file.id.hasNull_text) (by decide)
          (ids file.batchId)) (by decide) (ids session)
        decide
      · exact filename
      · exact contentType
      · rfl
      · exact sha256
      · exact statuses file.status
    · intro v isError
      split at isError
      · cases isError
      · cases isError
        exact errorMessage

theorem event_error (file : UploadFile) (eventType : String) (session : Option Uuid) :
    (file.event eventType session).resolvedPayload.field? "error" =
      if file.errorMessage.isEmpty then none else some (.str file.errorMessage) := by
  change (PayloadBuilder.build _).field? "error" = _
  rw [PayloadBuilder.field?_field_of_ne (by decide)]
  refine PayloadBuilder.field?_optional_self ?_ _
  iterate 5 rw [PayloadBuilder.field?_field_of_ne (by decide)]
  iterate 2 rw [PayloadBuilder.field?_optional_of_ne (by decide)]
  rw [PayloadBuilder.field?_field_of_ne (by decide)]
  rfl

theorem Clean.moved (clean : file.Clean) {message : Option String}
    (storable : message.toList.any hasNull = false) (target : FileStatus) (now : Instant) :
    (file.moved target message now).Clean := by
  simp only [Clean, UploadFile.moved, List.any_cons, List.any_nil, Bool.or_eq_false_iff] at clean ⊢
  obtain ⟨filename, contentType, sha256, errorMessage, _⟩ := clean
  refine ⟨filename, contentType, sha256, ?_, trivial⟩
  cases message with
  | none => exact errorMessage
  | some text => simpa using storable

end UploadFile

namespace Tables
variable {t t' : Tables} {file : UploadFile}

/-- The texts of all files are storable. -/
def FilesClean (t : Tables) : Prop := ∀ file ∈ t.files, file.Clean

theorem FilesClean.of_files (clean : t.FilesClean) (same : t'.files = t.files) : t'.FilesClean :=
  fun file member => clean file (same ▸ member)

theorem FilesClean.of_uploads (clean : t.FilesClean) (kept : t'.uploads = t.uploads) :
    t'.FilesClean :=
  clean.of_files (congrArg (fun t => t.files) kept :)

theorem FilesClean.setFile (clean : t.FilesClean) (isClean : file.Clean) :
    (t.setFile file).FilesClean := by
  intro row member
  obtain ⟨old, there, rfl⟩ := List.mem_map.mp member
  split
  · exact isClean
  · exact clean old there

theorem FilesClean.of_file? (clean : t.FilesClean) {id : Uuid} (found : t.file? id = some file) :
    file.Clean :=
  clean file (List.mem_of_find?_eq_some found)

end Tables

theorem UploadSettings.filesClean_of_transitionFile {settings : UploadSettings} {now : Instant}
    {id : Uuid} {sources : List FileStatus} {target : FileStatus} {message type : Option String}
    {u v : UnitOfWork} {moved : UploadFile} (clean : u.tables.FilesClean)
    (run : (settings.transitionFile now id sources target message type : Work UploadFile).run u =
      (.ok moved, v)) :
    v.tables.FilesClean := by
  have storable : message.toList.any hasNull = false := by
    obtain ⟨_, _, within, _⟩ := Stateful.run_bind_eq_ok_iff.mp run
    obtain ⟨_, _, moves, _⟩ := Stateful.run_bind_eq_ok_iff.mp within
    rw [run_moveFile] at moves
    split at moves
    · cases moves
    · exact Bool.not_eq_true _ ▸ ‹_›
  obtain ⟨file, found, _, rfl, rest⟩ := transitionFile_eq_ok run
  have set := clean.setFile ((clean.of_file? found).moved storable target now)
  cases type with
  | none =>
    cases rest
    exact set
  | some type =>
    obtain ⟨_, emitted⟩ := rest
    exact set.of_uploads ((settings.outbox.emit_keeps Tables.uploads_setOutbox _ _).eq emitted)

namespace Store

/-- No call puts a file in whose texts cannot be stored. -/
theorem perform_filesClean {s : Store} (clean : s.tables.FilesClean) (x : Transaction) :
    (s.perform x).2.tables.FilesClean := by
  rcases s.perform_cases x with ⟨_, _, kept, _⟩ | ⟨reply, u, run, performed, _⟩
  · exact kept ▸ clean
  rw [performed]
  obtain ⟨db, now, call⟩ := x
  change u.tables.FilesClean
  have quiet : Work.Keeps Tables.uploads (call.run db now) → u.tables.FilesClean := fun keeps =>
    clean.of_uploads (keeps.eq run)
  cases call with
  | emit event => exact quiet ((db.outbox.emit_keeps Tables.uploads_setOutbox now event).map _)
  | emitAll events => exact quiet ((db.outbox.emitAll_keeps Tables.uploads_setOutbox now events).map _)
  | fetchDue | release | applyTransitions | cleanup | requeueFailed =>
    exact quiet (Call.run_keeps Tables.uploads_setOutbox rfl db now)
  | createEndpoint request => exact quiet ((registerEndpoint_keepsUploads now request).map _)
  | updateEndpoint | deleteEndpoint => exact quiet ((Work.onEndpoints_keepsUploads _).map _)
  | createBatch createdBy key =>
    obtain ⟨batch, created, _⟩ := Stateful.run_map_eq_ok run
    obtain ⟨_, _, rfl⟩ := UploadSettings.createBatch_eq_ok created
    exact clean
  | startBatch id =>
    obtain ⟨_, started, _⟩ := Stateful.run_map_eq_ok run
    obtain ⟨_, _, _, _, rfl⟩ := UploadSettings.startBatch_eq_ok started
    exact clean
  | finalizeBatch id =>
    obtain ⟨_, finalized, _⟩ := Stateful.run_map_eq_ok run
    obtain ⟨_, _, _, _, ⟨_, rfl⟩ | ⟨_, _, _, announced⟩⟩ :=
      UploadSettings.finalizeBatch_eq_ok finalized
    · exact clean
    · exact Tables.FilesClean.of_uploads (t := s.tables.setBatch _) clean
        ((db.uploads.outbox.emit_keeps Tables.uploads_setOutbox _ _).eq announced)
  | createFile request =>
    obtain ⟨file, created, _⟩ := Stateful.run_map_eq_ok run
    obtain ⟨_, texts, _, between, rfl, rest⟩ := UploadSettings.createFile_eq_ok created
    have added : Tables.FilesClean { s.tables with files := s.tables.files ++ [file] } := by
      intro row member
      rcases List.mem_append.mp member with old | new
      · exact clean row old
      · exact List.mem_singleton.mp new ▸ texts
    split at rest
    · obtain ⟨_, emitted⟩ := rest
      exact added.of_uploads ((db.uploads.outbox.emit_keeps Tables.uploads_setOutbox _ _).eq emitted)
    · subst rest
      exact added
  | markFileStored | markFileProcessed | markFileFailed | markFileDeleted =>
    obtain ⟨_, moved, _⟩ := Stateful.run_map_eq_ok run
    exact UploadSettings.filesClean_of_transitionFile clean moved
  | createSession token file total chunk =>
    obtain ⟨_, created, _⟩ := Stateful.run_map_eq_ok run
    obtain ⟨_, _, _, _, _, _, _, _, _, _, rfl⟩ := UploadSettings.createSession_eq_ok created
    exact clean
  | recordPart id part =>
    obtain ⟨_, done, _⟩ := Stateful.run_map_eq_ok run
    obtain ⟨_, _, _, _, _, _, _, _, _, _, _, _, _, rfl⟩ := UploadSettings.recordPart_eq_ok done
    exact clean
  | completeSession id =>
    obtain ⟨_, done, _⟩ := Stateful.run_map_eq_ok run
    obtain ⟨session, _, _, _, _, rfl, ⟨_, _, found, _, emitted⟩ | ⟨_, rfl⟩⟩ :=
      UploadSettings.completeSession_eq_ok done
    · have moved := (clean.of_file? found).moved (rfl : none.toList.any hasNull = false) .stored now
      have set := Tables.FilesClean.setFile
        (t := s.tables.setSession (session.concluded .complete now)) clean moved
      exact set.of_uploads ((db.uploads.outbox.emit_keeps Tables.uploads_setOutbox _ _).eq emitted)
    · exact clean
  | abortSession | failSession =>
    obtain ⟨_, done, _⟩ := Stateful.run_map_eq_ok run
    obtain ⟨_, _, _, _, rfl⟩ := UploadSettings.terminateSession_eq_ok done
    exact clean
  | cleanupFiles cutoff limit =>
    obtain ⟨_, done, _⟩ := Stateful.run_map_eq_ok run
    rcases UploadSettings.cleanupExpiredFiles_eq_ok done with rfl | ⟨ids, rfl⟩
    · exact clean
    · exact fun file member => clean file (List.mem_of_mem_filter member)

theorem after_filesClean {s : Store} (clean : s.tables.FilesClean) (run : List Transaction) :
    (s.after run).tables.FilesClean := by
  induction run generalizing s with
  | nil => exact clean
  | cons x rest ih => exact ih (perform_filesClean clean x)

end Store

end OutboxRelay
