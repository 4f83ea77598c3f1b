import Mathlib.Data.Rat.Floor
import OutboxRelay.Proofs.StoreRun
import OutboxRelay.Proofs.UploadWrites

namespace OutboxRelay

/-- The quotient, and one more if something is left over, is the quotient rounded up. -/
theorem quotient_add_rest {total size : Int} (positive : 0 < size) :
    total / size + (if total % size = 0 then 0 else 1) = ⌈(total : ℚ) / size⌉ := by
  have division := Int.mul_ediv_add_emod total size
  have low := Int.emod_nonneg total (by omega : size ≠ 0)
  have high := Int.emod_lt_of_pos total positive
  have positive' : (0 : ℚ) < size := by exact_mod_cast positive
  symm
  rw [Int.ceil_eq_iff, lt_div_iff₀ positive', div_le_iff₀ positive']
  generalize total / size = quotient at division ⊢
  generalize total % size = remainder at division low high ⊢
  subst division
  split
  · rename_i even
    subst even
    constructor <;> push_cast <;> nlinarith
  · have above : (0 : ℚ) < remainder := by exact_mod_cast (by omega : 0 < remainder)
    have below : (remainder : ℚ) < size := by exact_mod_cast high
    constructor <;> push_cast <;> nlinarith

/-- The number of parts over numbers of any size. -/
theorem partCount_eq {total size : Int} (positive : 0 < size) :
    (partCountBy (m := Id) (fun a b => a / b) (fun a b => a % b) id total size).run =
      ⌈(total : ℚ) / size⌉ :=
  quotient_add_rest positive

theorem totalParts_eq_ok {total parts : Int} {chunk : Option Int}
    (planned : totalParts total chunk = .ok parts) :
    0 < chunk.getD defaultChunkSize ∧ 0 ≤ total ∧
      parts = ⌈(total : ℚ) / (chunk.getD defaultChunkSize : ℤ)⌉ := by
  unfold totalParts at planned
  generalize chunk.getD defaultChunkSize = size at planned
  dsimp only at planned
  split at planned
  · cases planned
  · rename_i positive
    rw [partCount_eq (by omega)] at planned
    split at planned
    · cases planned
    · split at planned
      · cases planned
        exact ⟨by omega, by omega, rfl⟩
      · cases planned

/-- The number of parts of a session is the one that its chunks take. -/
structure UploadSession.Planned (session : UploadSession) : Prop where
  chunk : 0 < session.chunkSizeBytes
  total : 0 ≤ session.totalSizeBytes
  parts : session.totalParts = ⌈(session.totalSizeBytes : ℚ) / session.chunkSizeBytes⌉

/-- What a session is like when it is opened. -/
structure UploadSession.Opened (session : UploadSession) : Prop where
  planned : session.Planned
  status : session.status = .init
  received : session.bytesReceived = 0
  completed : session.completedParts = 0

theorem UploadSettings.createSession_opened {now : Instant} {token file : Uuid} {total : Int}
    {chunk : Option Int} {session : UploadSession} {u v : UnitOfWork}
    (run : (createSession now token file total chunk : Work UploadSession).run u =
      (.ok session, v)) : session.Opened := by
  obtain ⟨planned, _, _, _, _, status, size, length, received, completed, _⟩ :=
    createSession_eq_ok run
  obtain ⟨positive, nonneg, parts⟩ := totalParts_eq_ok planned
  rw [← size] at positive parts
  rw [← length] at nonneg parts
  exact ⟨⟨positive, nonneg, parts⟩, status, received, completed⟩

namespace Tables

/-- The parts of a session in the order in which they came. -/
def partsOf (t : Tables) (session : Uuid) : List UploadPart :=
  t.parts.filter (·.sessionId = session)

theorem sessionParts_perm (t : Tables) (session : Uuid) :
    (t.sessionParts session).Perm (t.partsOf session) :=
  List.mergeSort_perm _ _

theorem sessionParts_congr {t t' : Tables} {session : Uuid}
    (same : t'.partsOf session = t.partsOf session) :
    t'.sessionParts session = t.sessionParts session :=
  congrArg (fun parts => parts.mergeSort fun a b => a.partNumber ≤ b.partNumber) same

/-- The parts that a session has received. -/
theorem countP_partsOf (t : Tables) (session : Uuid) :
    t.parts.countP (fun p => p.sessionId = session && p.status = .received) =
      (t.partsOf session).countP (·.status = .received) := by
  rw [partsOf, List.countP_filter]
  exact List.countP_congr fun p _ => by simp [and_comm]

/-- What one call can do to sessions and their parts, when `serial` counts the identifiers that are
in use. -/
inductive SessionStep (t : Tables) (serial : Nat) (t' : Tables) (serial' : Nat) : Prop
  | quiet : t'.sessions = t.sessions → t'.parts = t.parts → serial ≤ serial' →
      SessionStep t serial t' serial'
  | opened {session : UploadSession} : session.id = Uuid.ofSerial serial → serial < serial' →
      session.Opened → t'.sessions = t.sessions ++ [session] → t'.parts = t.parts →
      SessionStep t serial t' serial'
  | recorded {session : UploadSession} {part : UploadPart} (now : Instant) :
      t.session? session.id = some session → session.status.isTerminal = false →
      part.sessionId = session.id → part.status = .received →
      1 ≤ part.partNumber → part.partNumber ≤ session.totalParts →
      (∀ other ∈ t.partsOf session.id, other.partNumber ≠ part.partNumber) →
      fitsInt64 (session.bytesReceived + part.sizeBytes) = true →
      t'.sessions = (t.setSession (session.advanced part.sizeBytes now)).sessions →
      t'.parts = t.parts ++ [part] → serial ≤ serial' → SessionStep t serial t' serial'
  | completed {session : UploadSession} (now : Instant) :
      t.session? session.id = some session → session.status ≠ .failed → session.status ≠ .aborted →
      session.totalParts ≤ (t.partsOf session.id).countP (·.status = .received) →
      t'.sessions = (t.setSession (session.concluded .complete now)).sessions →
      t'.parts = t.parts → serial ≤ serial' → SessionStep t serial t' serial'
  | ended {session : UploadSession} {target : SessionStatus} (now : Instant) :
      t.session? session.id = some session → session.status.isTerminal = false →
      target = .failed ∨ target = .aborted →
      t'.sessions = (t.setSession (session.concluded target now)).sessions →
      t'.parts = t.parts → serial ≤ serial' → SessionStep t serial t' serial'
  | deleted (ids : List Uuid) : t'.sessions = (t.deleteFiles ids).sessions →
      t'.parts = (t.deleteFiles ids).parts → serial ≤ serial' → SessionStep t serial t' serial'

end Tables

namespace Tables

/-- The part of the tables that belongs to uploads is all that a step depends on. -/
theorem SessionStep.of_uploads {t t' : Tables} {serial serial' : Nat}
    (kept : t'.uploads = t.uploads) (rising : serial ≤ serial') :
    t.SessionStep serial t' serial' :=
  .quiet (congrArg (fun t => t.sessions) kept :) (congrArg (fun t => t.parts) kept :) rising

end Tables

namespace Store

/-- A file that moves takes no session along. -/
theorem sessionStep_of_transitionFile {settings : UploadSettings} {now : Instant} {id : Uuid}
    {sources : List FileStatus} {target : FileStatus} {message eventType : Option String}
    {moved : UploadFile} {u v : UnitOfWork}
    (run : (settings.transitionFile now id sources target message eventType : Work UploadFile).run u =
      (.ok moved, v)) (rising : u.serial ≤ v.serial) :
    u.tables.SessionStep u.serial v.tables v.serial := by
  obtain ⟨_, _, _, _, rest⟩ := UploadSettings.transitionFile_eq_ok run
  cases eventType with
  | none =>
    cases rest
    exact .quiet rfl rfl rising
  | some type =>
    obtain ⟨_, emitted⟩ := rest
    obtain ⟨_, _, _, rfl⟩ := OutboxSettings.emit_eq_ok emitted
    exact .quiet (Tables.sessions_setOutbox _ _ _) (Tables.parts_setOutbox _ _ _) rising

theorem sessionStep_of_terminateSession {now : Instant} {id : Uuid} {target : SessionStatus}
    {ended : UploadSession} {u v : UnitOfWork}
    (run : (UploadSettings.terminateSession now id target : Work UploadSession).run u = (.ok ended, v))
    (ending : target = .failed ∨ target = .aborted) :
    u.tables.SessionStep u.serial v.tables v.serial := by
  obtain ⟨session, found, running, rfl, rfl⟩ := UploadSettings.terminateSession_eq_ok run
  obtain rfl := Tables.id_of_session? found
  exact .ended now found running ending rfl rfl (Nat.le_refl _)

theorem sessionStep_of_createFile {settings : UploadSettings} {now : Instant}
    {request : NewUploadFile} {file : UploadFile} {u v : UnitOfWork}
    (run : (settings.createFile now request : Work UploadFile).run u = (.ok file, v))
    (rising : u.serial ≤ v.serial) : u.tables.SessionStep u.serial v.tables v.serial := by
  obtain ⟨_, _, _, between, rfl, rest⟩ := UploadSettings.createFile_eq_ok run
  split at rest
  · obtain ⟨_, emitted⟩ := rest
    obtain ⟨_, _, _, rfl⟩ := OutboxSettings.emit_eq_ok emitted
    exact .quiet (Tables.sessions_setOutbox _ _ _) (Tables.parts_setOutbox _ _ _) rising
  · subst rest
    exact .quiet rfl rfl rising

theorem sessionStep_of_recordPart {now : Instant} {id : Uuid} {part : NewUploadPart}
    {recorded : UploadPart} {u v : UnitOfWork}
    (run : (UploadSettings.recordPart now id part : Work UploadPart).run u = (.ok recorded, v))
    (rising : u.serial ≤ v.serial) : u.tables.SessionStep u.serial v.tables v.serial := by
  obtain ⟨_, session, found, low, high, free, running, fits, _, owner, number, size, status, rfl⟩ :=
    UploadSettings.recordPart_eq_ok run
  obtain rfl := Tables.id_of_session? found
  rw [← number] at low high
  rw [← size] at fits
  refine .recorded now found running owner status low high ?_ fits ?_ rfl rising
  · intro other member equal
    obtain ⟨there, owned⟩ := List.mem_filter.mp member
    exact free other there ⟨of_decide_eq_true owned, equal.trans number⟩
  · rw [size]
    rfl

theorem sessionStep_of_completeSession {settings : UploadSettings} {now : Instant} {id : Uuid}
    {completed : UploadSession} {u v : UnitOfWork}
    (run : (settings.completeSession now id : Work UploadSession).run u = (.ok completed, v))
    (rising : u.serial ≤ v.serial) : u.tables.SessionStep u.serial v.tables v.serial := by
  obtain ⟨session, found, unfailed, unaborted, enough, rfl, rest⟩ :=
    UploadSettings.completeSession_eq_ok run
  obtain rfl := Tables.id_of_session? found
  have counted : session.totalParts ≤
      (u.tables.partsOf session.id).countP (·.status = .received) := by
    rwa [← u.tables.countP_partsOf]
  rcases rest with ⟨_, _, _, _, emitted⟩ | ⟨_, rfl⟩
  · obtain ⟨_, _, _, rfl⟩ := OutboxSettings.emit_eq_ok emitted
    exact .completed now found unfailed unaborted counted (Tables.sessions_setOutbox _ _ _)
      (Tables.parts_setOutbox _ _ _) rising
  · exact .completed now found unfailed unaborted counted rfl rfl rising

/-- Whatever a call does to sessions and their parts is one of these steps. -/
theorem perform_sessions (s : Store) (x : Transaction) :
    s.tables.SessionStep s.serial (s.perform x).2.tables (s.perform x).2.serial := by
  rcases s.perform_cases x with ⟨_, _, kept, rising⟩ | ⟨reply, u, run, performed, rising⟩
  · exact .quiet (by rw [kept]) (by rw [kept]) rising
  rw [performed]
  obtain ⟨db, now, call⟩ := x
  change s.tables.SessionStep s.serial u.tables u.serial
  have quiet : Work.Keeps Tables.uploads (call.run db now) →
      s.tables.SessionStep s.serial u.tables u.serial := fun keeps =>
    .of_uploads (keeps.eq run) rising
  cases call with
  | emit event => exact quiet ((db.outbox.emit_keeps Tables.uploads_setOutbox now event).map _)
  | emitAll events => exact quiet ((db.outbox.emitAll_keeps Tables.uploads_setOutbox now events).map _)
  | fetchDue | release | applyTransitions | cleanup | requeueFailed =>
    exact quiet (Call.run_keeps Tables.uploads_setOutbox rfl db now)
  | createEndpoint request => exact quiet ((registerEndpoint_keepsUploads now request).map _)
  | updateEndpoint | deleteEndpoint => exact quiet ((Work.onEndpoints_keepsUploads _).map _)
  | createBatch createdBy key =>
    obtain ⟨batch, created, _⟩ := Stateful.run_map_eq_ok run
    obtain ⟨_, _, rfl⟩ := UploadSettings.createBatch_eq_ok created
    exact .quiet rfl rfl (Nat.le_succ _)
  | startBatch id =>
    obtain ⟨batch, started, _⟩ := Stateful.run_map_eq_ok run
    obtain ⟨_, _, _, _, rfl⟩ := UploadSettings.startBatch_eq_ok started
    exact .quiet rfl rfl (Nat.le_refl _)
  | finalizeBatch id =>
    obtain ⟨status, finalized, _⟩ := Stateful.run_map_eq_ok run
    obtain ⟨_, _, _, _, ⟨_, rfl⟩ | ⟨_, _, _, announced⟩⟩ :=
      UploadSettings.finalizeBatch_eq_ok finalized
    · exact .quiet rfl rfl (Nat.le_refl _)
    · have kept := (db.uploads.outbox.emit_keeps Tables.uploads_setOutbox _ _).eq announced
      exact .quiet (congrArg (fun t => t.sessions) kept :) (congrArg (fun t => t.parts) kept :) rising
  | createFile request =>
    obtain ⟨_, created, _⟩ := Stateful.run_map_eq_ok run
    exact sessionStep_of_createFile created rising
  | markFileStored | markFileProcessed | markFileFailed | markFileDeleted =>
    obtain ⟨_, moved, _⟩ := Stateful.run_map_eq_ok run
    exact sessionStep_of_transitionFile moved rising
  | createSession token file total chunk =>
    obtain ⟨session, created, _⟩ := Stateful.run_map_eq_ok run
    have opened := UploadSettings.createSession_opened created
    obtain ⟨_, _, _, isNew, _, _, _, _, _, _, rfl⟩ := UploadSettings.createSession_eq_ok created
    exact .opened isNew (Nat.lt_succ_self _) opened rfl rfl
  | recordPart id part =>
    obtain ⟨_, done, _⟩ := Stateful.run_map_eq_ok run
    exact sessionStep_of_recordPart done rising
  | completeSession id =>
    obtain ⟨_, done, _⟩ := Stateful.run_map_eq_ok run
    exact sessionStep_of_completeSession done rising
  | abortSession id =>
    obtain ⟨ended, done, _⟩ := Stateful.run_map_eq_ok run
    exact sessionStep_of_terminateSession done (.inr rfl)
  | failSession id =>
    obtain ⟨ended, done, _⟩ := Stateful.run_map_eq_ok run
    exact sessionStep_of_terminateSession done (.inl rfl)
  | cleanupFiles cutoff limit =>
    obtain ⟨stats, done, _⟩ := Stateful.run_map_eq_ok run
    rcases UploadSettings.cleanupExpiredFiles_eq_ok done with rfl | ⟨ids, rfl⟩
    · exact .quiet rfl rfl (Nat.le_refl _)
    · exact .deleted ids rfl rfl (Nat.le_refl _)

end Store

end OutboxRelay
