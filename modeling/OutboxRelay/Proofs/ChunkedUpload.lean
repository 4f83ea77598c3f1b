import OutboxRelay.Proofs.ChunkPlan
import OutboxRelay.Proofs.SessionRun
import OutboxRelay.Proofs.WordArithmetic

namespace OutboxRelay

namespace NewUploadPart

/-- The part that a session plans under its number. Digest and storage key are such as there are. -/
structure Fits (part : NewUploadPart) (session : UploadSession) : Prop where
  inRange : part.partNumber ∈ session.numbers
  offset : part.offsetBytes = session.offset part.partNumber
  size : part.sizeBytes = session.length part.partNumber
  digest : ¬MalformedSha256 part.sha256
  key : part.tempStorageKey.toList.any hasNull = false

/-- A part that cannot be: negative, with a digest that is not one, or under a number that is out of
range or was `sent` before. -/
def Wrong (part : NewUploadPart) (session : UploadSession) (sent : List Int) : Prop :=
  part.offsetBytes < 0 ∨ part.sizeBytes < 0 ∨ MalformedSha256 part.sha256 ∨
    part.partNumber ∉ session.numbers ∨ part.partNumber ∈ sent

end NewUploadPart

namespace UploadSession
variable {session : UploadSession}

/-- A session to which parts have come, the last at `time`. -/
def holding (session : UploadSession) (parts : List UploadPart) (time : Instant) :
    UploadSession :=
  { session with
    status := if parts.isEmpty then .init else .inProgress
    completedParts := parts.length
    bytesReceived := (parts.map (·.sizeBytes)).sum
    updatedAt := time }

theorem Opened.holding_nil (opened : session.Opened) :
    session.holding [] session.updatedAt = session := by
  obtain ⟨_, status, received, completed⟩ := opened
  cases session
  cases status
  cases received
  cases completed
  rfl

theorem holding_advanced (session : UploadSession) (parts : List UploadPart) (part : UploadPart)
    (time now : Instant) :
    (session.holding parts time).advanced part.sizeBytes now =
      session.holding (parts ++ [part]) now := by
  simp [holding, advanced]

theorem holding_running (session : UploadSession) (parts : List UploadPart) (time : Instant) :
    (session.holding parts time).status.isTerminal = false := by
  unfold holding
  dsimp only
  split <;> rfl

/-- Parts that a session has received as it planned them, each once. -/
structure Holds (session : UploadSession) (parts : List UploadPart) : Prop where
  owned : ∀ part ∈ parts, part.sessionId = session.id ∧ part.status = .received
  planned : ∀ part ∈ parts, part.partNumber ∈ session.numbers ∧
    part.offsetBytes = session.offset part.partNumber ∧
    part.sizeBytes = session.length part.partNumber
  distinct : (parts.map (·.partNumber)).Nodup

namespace Holds
variable {parts : List UploadPart}

theorem nil (session : UploadSession) : session.Holds [] :=
  ⟨List.forall_mem_nil _, List.forall_mem_nil _, .nil⟩

theorem append (holds : session.Holds parts) {part : NewUploadPart} (fits : part.Fits session)
    (isNew : part.partNumber ∉ parts.map (·.partNumber)) (id : Uuid) (now : Instant) :
    session.Holds (parts ++ [part.received id session.id now]) where
  owned := List.forall_mem_append.mpr
    ⟨holds.owned, List.forall_mem_singleton.mpr ⟨rfl, rfl⟩⟩
  planned := List.forall_mem_append.mpr
    ⟨holds.planned, List.forall_mem_singleton.mpr ⟨fits.inRange, fits.offset, fits.size⟩⟩
  distinct := by
    rw [List.map_append, List.map_singleton, List.nodup_append]
    refine ⟨holds.distinct, List.nodup_singleton _, fun number before other isLast same => ?_⟩
    rw [same, List.mem_singleton.mp isLast] at before
    exact isNew before

theorem subset (holds : session.Holds parts) : parts.map (·.partNumber) ⊆ session.numbers := by
  intro number member
  obtain ⟨part, there, rfl⟩ := List.mem_map.mp member
  exact (holds.planned part there).1

theorem sizes (holds : session.Holds parts) :
    parts.map (·.sizeBytes) = (parts.map (·.partNumber)).map session.length := by
  rw [List.map_map]
  exact List.map_congr_left fun part member => (holds.planned part member).2.2

theorem countP_received (holds : session.Holds parts) :
    parts.countP (·.status = .received) = parts.length :=
  List.countP_eq_length.mpr fun part member => decide_eq_true (holds.owned part member).2

theorem length_le (holds : session.Holds parts) (planned : session.Planned) :
    (parts.length : Int) ≤ session.totalParts := by
  have count := (holds.distinct.subperm holds.subset).length_le
  rw [List.length_map] at count
  have all := length_numbers planned.totalParts_nonneg
  omega

/-- What has come is part of the file. -/
theorem sum_bounds (holds : session.Holds parts) (planned : session.Planned) :
    0 ≤ (parts.map (·.sizeBytes)).sum ∧ (parts.map (·.sizeBytes)).sum ≤ session.totalSizeBytes := by
  constructor
  · refine List.sum_nonneg fun size member => ?_
    obtain ⟨part, there, rfl⟩ := List.mem_map.mp member
    obtain ⟨inRange, _, isSize⟩ := holds.planned part there
    have positive := planned.length_pos (mem_numbers.mp inRange).2
    omega
  · rw [holds.sizes]
    exact planned.sum_le holds.distinct fun number member => mem_numbers.mp (holds.subset member)

/-- As many parts as there are to be are all of them. -/
theorem perm_of_length (holds : session.Holds parts) (planned : session.Planned)
    (enough : session.totalParts ≤ parts.length) :
    (parts.map (·.partNumber)).Perm session.numbers := by
  refine (holds.distinct.subperm holds.subset).perm_of_length_le ?_
  have all := length_numbers planned.totalParts_nonneg
  rw [List.length_map]
  omega

/-- All parts together are the file. -/
theorem sum_of_perm (holds : session.Holds parts) (planned : session.Planned)
    (all : (parts.map (·.partNumber)).Perm session.numbers) :
    (parts.map (·.sizeBytes)).sum = session.totalSizeBytes := by
  rw [holds.sizes, (all.map session.length).sum_eq, planned.sum_numbers]

end Holds

end UploadSession

namespace Tables
variable {t : Tables} {session : UploadSession} {parts : List UploadPart}

/-- A session that has just been opened: no other has its identifier, and no part belongs to it. -/
structure Opens (t : Tables) (session : UploadSession) : Prop where
  there : session ∈ t.sessions
  only : ∀ row ∈ t.sessions, row.id = session.id → row = session
  none : t.partsOf session.id = []
  opened : session.Opened
  count : session.totalParts ≤ maxInt32
  size : session.totalSizeBytes ≤ maxInt64

theorem Opens.session? (opens : t.Opens session) : t.session? session.id = some session := by
  cases found : t.session? session.id with
  | none => exact absurd (decide_eq_true rfl) (List.find?_eq_none.mp found session opens.there)
  | some row => rw [opens.only row (mem_of_session? found) (id_of_session? found)]

/-- Tables that are as right after the opening of a session, but for the parts that it has received
since. -/
structure Receives (opened : Tables) (session : UploadSession) (parts : List UploadPart)
    (t : Tables) : Prop where
  tables : ∃ time, t = ({ opened with parts := opened.parts ++ parts } : Tables).setSession
    (session.holding parts time)
  holds : session.Holds parts

namespace Receives
variable {opened : Tables}

theorem start (opens : opened.Opens session) : opened.Receives session [] opened := by
  refine ⟨⟨session.updatedAt, ?_⟩, .nil session⟩
  rw [opens.opened.holding_nil, List.append_nil]
  exact (setSession_of_only opens.only).symm

theorem session? (opens : opened.Opens session) (receives : opened.Receives session parts t) :
    ∃ time, t.session? session.id = some (session.holding parts time) := by
  obtain ⟨time, isTables⟩ := receives.tables
  refine ⟨time, ?_⟩
  rw [isTables]
  exact session?_setSession_self (session.holding parts time) opens.session?

theorem partsOf (opens : opened.Opens session) (receives : opened.Receives session parts t) :
    t.partsOf session.id = parts := by
  obtain ⟨time, isTables⟩ := receives.tables
  have all : parts.filter (·.sessionId = session.id) = parts :=
    List.filter_eq_self.mpr fun part member => decide_eq_true (receives.holds.owned part member).1
  have none : opened.parts.filter (·.sessionId = session.id) = [] := opens.none
  rw [isTables]
  change (opened.parts ++ parts).filter (·.sessionId = session.id) = parts
  rw [List.filter_append, none, all, List.nil_append]

/-- A part that fits is recorded. -/
theorem record {u : UnitOfWork} (opens : opened.Opens session)
    (receives : opened.Receives session parts u.tables) {part : NewUploadPart}
    (fits : part.Fits session) (isNew : part.partNumber ∉ parts.map (·.partNumber))
    (now : Instant) : ∃ t',
      (UploadSettings.recordPart now session.id part : Work UploadPart).run u =
        (.ok (part.received (Uuid.ofSerial u.serial) session.id now),
          { u with tables := t', serial := u.serial + 1 }) ∧
      opened.Receives session (parts ++ [part.received (Uuid.ofSerial u.serial) session.id now])
        t' := by
  have planned := opens.opened.planned
  obtain ⟨low, high⟩ := UploadSession.mem_numbers.mp fits.inRange
  have holds := receives.holds.append fits isNew (Uuid.ofSerial u.serial) now
  obtain ⟨time, found⟩ := receives.session? opens
  have fine : UploadSettings.checkPart part = .ok () := by
    have offset := planned.offset_nonneg low
    have size := planned.length_pos high
    rw [checkPart_eq_ok_iff, fits.offset, fits.size]
    exact ⟨offset, by omega, fits.digest⟩
  have free : ∀ other ∈ u.tables.partsOf session.id, other.partNumber ≠ part.partNumber := by
    rw [receives.partsOf opens]
    exact fun other member same => isNew (same ▸ List.mem_map_of_mem member)
  have bytes : fitsInt64 ((session.holding parts time).bytesReceived + part.sizeBytes) = true := by
    have sum := holds.sum_bounds planned
    rw [List.map_append, List.sum_append, List.map_singleton, List.sum_singleton] at sum
    exact fitsInt64_of_nonneg sum.1 (Int.le_trans sum.2 opens.size)
  have count : fitsInt32 ((session.holding parts time).completedParts + 1) = true := by
    have length := holds.length_le planned
    rw [List.length_append, List.length_singleton] at length
    exact fitsInt32_of_nonneg (Int.natCast_nonneg (parts.length + 1))
      (Int.le_trans length opens.count)
  refine ⟨_, UploadSettings.run_recordPart (session.holding parts time) now found fine low high
    fits.key free (session.holding_running parts time) bytes count, ⟨now, ?_⟩, holds⟩
  obtain ⟨before, isTables⟩ := receives.tables
  let received := part.received (Uuid.ofSerial u.serial) session.id now
  have advanced : (session.holding parts time).advanced part.sizeBytes now =
      session.holding (parts ++ [received]) now := session.holding_advanced parts received time now
  rw [isTables, advanced, ← List.append_assoc]
  exact setSession_setSession { opened with parts := opened.parts ++ parts ++ [received] }
    (session.holding parts before) rfl

end Receives

end Tables

namespace Store
variable {s opened : Store} {x : Transaction} {session : UploadSession} {parts : List UploadPart}

/-- A part that is wrong leaves no trace. -/
theorem perform_wrong {part : NewUploadPart} (opens : opened.tables.Opens session)
    (receives : opened.tables.Receives session parts s.tables)
    (isPart : x.call = .recordPart session.id part)
    (wrong : part.Wrong session (parts.map (·.partNumber))) :
    (∃ e, (s.perform x).1 = .error e) ∧ (s.perform x).2.tables = s.tables := by
  obtain ⟨db, now, call⟩ := x
  cases isPart
  rcases s.perform_cases ⟨db, now, .recordPart session.id part⟩ with
    ⟨e, failed, kept, _⟩ | ⟨_, _, run, _, _⟩
  · exact ⟨⟨e, failed⟩, kept⟩
  exfalso
  obtain ⟨_, done, _⟩ := Stateful.run_map_eq_ok run
  obtain ⟨⟨⟩, checked, _⟩ := Work.run_lift_bind_eq_ok_iff.mp done
  obtain ⟨offset, size, digest⟩ := checkPart_eq_ok_iff.mp checked
  obtain ⟨_, row, isRow, low, high, free, _⟩ := UploadSettings.recordPart_eq_ok done
  obtain ⟨time, found⟩ := receives.session? opens
  cases Option.some.inj (found.symm.trans isRow)
  rcases wrong with negative | negative | malformed | outside | taken
  · omega
  · omega
  · exact digest malformed
  · exact outside (UploadSession.mem_numbers.mpr ⟨low, high⟩)
  · obtain ⟨other, member, same⟩ := List.mem_map.mp taken
    rw [← receives.partsOf opens] at member
    obtain ⟨there, owned⟩ := List.mem_filter.mp member
    exact free other there ⟨of_decide_eq_true owned, same⟩

/-- A session is not completed before all parts are there. -/
theorem perform_early (opens : opened.tables.Opens session)
    (receives : opened.tables.Receives session parts s.tables)
    (isComplete : x.call = .completeSession session.id)
    (early : (parts.length : Int) < session.totalParts) :
    s.perform x =
      (.error (.incompleteUpload session.id parts.length session.totalParts), s) := by
  obtain ⟨db, now, call⟩ := x
  cases isComplete
  obtain ⟨time, found⟩ := receives.session? opens
  have received : (s.tables.partsOf session.id).countP (·.status = .received) = parts.length := by
    rw [receives.partsOf opens, receives.holds.countP_received]
  exact perform_map_error rfl (UploadSettings.run_completeSession_early (u := s.begin)
    (session.holding parts time) now found (session.holding_running parts time) received early)

/-- Calls for a session that has been opened. A client sends the planned parts of the given numbers,
in this order. Meanwhile there are calls for parts that are wrong, calls to complete the session
before all parts are there, and whatever other calls fail. -/
inductive Sends (opened : Store) (session : UploadSession) : List Int → List Transaction → Prop
  | start : Sends opened session [] []
  | part {numbers run x part} : Sends opened session numbers run →
      x.call = .recordPart session.id part → part.Fits session → part.partNumber ∉ numbers →
      Sends opened session (numbers ++ [part.partNumber]) (run ++ [x])
  | wrong {numbers run x part} : Sends opened session numbers run →
      x.call = .recordPart session.id part → part.Wrong session numbers →
      Sends opened session numbers (run ++ [x])
  | early {numbers run x} : Sends opened session numbers run →
      x.call = .completeSession session.id → (numbers.length : Int) < session.totalParts →
      Sends opened session numbers (run ++ [x])
  | failed {numbers run x e} : Sends opened session numbers run →
      ((opened.after run).perform x).1 = .error e → Sends opened session numbers (run ++ [x])

/-- A part that fits is recorded. -/
theorem perform_part {part : NewUploadPart} (opens : opened.tables.Opens session)
    (receives : opened.tables.Receives session parts s.tables)
    (isPart : x.call = .recordPart session.id part) (fits : part.Fits session)
    (isNew : part.partNumber ∉ parts.map (·.partNumber)) :
    ∃ recorded, (s.perform x).1 = .ok (.part recorded) ∧ recorded.partNumber = part.partNumber ∧
      opened.tables.Receives session (parts ++ [recorded]) (s.perform x).2.tables := by
  obtain ⟨db, now, call⟩ := x
  cases isPart
  obtain ⟨t', run, receives'⟩ := Tables.Receives.record (u := s.begin) opens receives fits isNew now
  have performed : s.perform ⟨db, now, .recordPart session.id part⟩ = _ :=
    perform_map_ok rfl run
  rw [performed]
  exact ⟨_, rfl, rfl, receives'⟩

theorem Sends.receives {numbers : List Int} {run : List Transaction}
    (sends : opened.Sends session numbers run) (opens : opened.tables.Opens session) :
    ∃ parts, parts.map (·.partNumber) = numbers ∧
      opened.tables.Receives session parts (opened.after run).tables := by
  -- a call that leaves the tables as they are leaves the parts that have come
  have kept : ∀ {numbers run x}, (∃ parts : List UploadPart, parts.map (·.partNumber) = numbers ∧
        opened.tables.Receives session parts (opened.after run).tables) →
      ((opened.after run).perform x).2.tables = (opened.after run).tables →
      ∃ parts : List UploadPart, parts.map (·.partNumber) = numbers ∧
        opened.tables.Receives session parts (opened.after (run ++ [x])).tables := by
    intro numbers run x before same
    rwa [after_append, after_cons, after_nil, same]
  induction sends with
  | start => exact ⟨[], rfl, .start opens⟩
  | @part numbers run x part sends isPart fits isNew ih =>
    obtain ⟨parts, rfl, receives⟩ := ih
    obtain ⟨recorded, _, number, receives'⟩ := perform_part opens receives isPart fits isNew
    refine ⟨parts ++ [recorded], ?_, ?_⟩
    · rw [List.map_append, List.map_singleton, number]
    · rwa [after_append, after_cons, after_nil]
  | wrong sends isPart wrong ih =>
    refine kept ih ?_
    obtain ⟨parts, rfl, receives⟩ := ih
    exact (perform_wrong opens receives isPart wrong).2
  | early sends isComplete early ih =>
    refine kept ih ?_
    obtain ⟨parts, rfl, receives⟩ := ih
    rw [List.length_map] at early
    rw [perform_early opens receives isComplete early]
  | @failed numbers run x e sends failed ih =>
    refine kept ih ?_
    rcases (opened.after run).perform_cases x with ⟨_, _, same, _⟩ | ⟨_, _, _, done, _⟩
    · exact same
    · rw [done] at failed
      cases failed

/-- Where a client has come to that has sent the parts `numbers` of a session, in this order. They
are recorded as planned, and else only the counters of the session differ from those at the opening.
The other parts that fit are taken, those that are wrong are not. The session is completed if, and only
if, all parts are there. -/
structure Transfer (opened : Store) (session : UploadSession) (file : UploadFile)
    (numbers : List Int) (s : Store) : Prop where
  recorded : (s.tables.partsOf session.id).map
      (fun part => (part.partNumber, part.offsetBytes, part.sizeBytes)) =
    numbers.map fun number => (number, session.offset number, session.length number)
  kept : s.tables.files = opened.tables.files ∧ ∀ table, s.rows table = opened.rows table
  takes : ∀ x part, x.call = .recordPart session.id part → part.Fits session →
    part.partNumber ∉ numbers → ∃ recorded, (s.perform x).1 = .ok (.part recorded)
  refuses : ∀ x part, x.call = .recordPart session.id part → part.Wrong session numbers →
    (∃ e, (s.perform x).1 = .error e) ∧ (s.perform x).2.tables = s.tables
  early : ¬numbers.Perm session.numbers → ∀ x, x.call = .completeSession session.id →
    s.perform x =
      (.error (.incompleteUpload session.id numbers.length session.totalParts), s)
  completes : numbers.Perm session.numbers → ∀ x, x.call = .completeSession session.id →
    x.db.uploads.outbox.Storable →
    (opened.rows x.db.uploads.outbox.table).hasKey fileStored file.id.fileKey = false →
    ∃ done s', s.Completes x file done s' ∧ done.id = session.id ∧
      done.bytesReceived = session.totalSizeBytes ∧ done.completedParts = session.totalParts

theorem Sends.transfer {numbers : List Int} {run : List Transaction} {file : UploadFile}
    (sends : opened.Sends session numbers run) (opens : opened.tables.Opens session)
    (found : opened.tables.file? session.fileId = some file) (uploading : file.status = .uploading)
    (clean : file.Clean) (fresh : (opened.after run).begin.Fresh 1) :
    opened.Transfer session file numbers (opened.after run) := by
  obtain ⟨parts, rfl, receives⟩ := sends.receives opens
  have planned := opens.opened.planned
  have holds := receives.holds
  obtain ⟨_, isTables⟩ := receives.tables
  have kept : ∀ table, (opened.after run).rows table = opened.rows table := by
    intro table
    rw [rows, isTables]
    exact Tables.outbox_congr rfl rfl table
  refine {
    recorded := ?_
    kept := ⟨by rw [isTables]; rfl, kept⟩
    takes := fun x part isPart fits isNew => ?_
    refuses := fun x part isPart wrong => perform_wrong opens receives isPart wrong
    early := fun missing x isComplete => ?_
    completes := fun all x isComplete limit free => ?_ }
  · rw [receives.partsOf opens, List.map_map]
    refine List.map_congr_left fun part member => ?_
    obtain ⟨_, offset, size⟩ := holds.planned part member
    simp only [Function.comp_apply, offset, size]
  · obtain ⟨recorded, performed, _⟩ := perform_part opens receives isPart fits isNew
    exact ⟨recorded, performed⟩
  · rw [List.length_map]
    refine perform_early opens receives isComplete (Int.not_le.mp fun enough => missing ?_)
    exact holds.perm_of_length planned enough
  · obtain ⟨time, isSession⟩ := receives.session? opens
    have count : (parts.length : Int) = session.totalParts := by
      rw [← UploadSession.length_numbers planned.totalParts_nonneg, ← all.length_eq,
        List.length_map]
    have enough : session.totalParts ≤
        ((opened.after run).tables.partsOf session.id).countP (·.status = .received) := by
      rw [receives.partsOf opens, holds.countP_received, count]
    have isFile : (opened.after run).tables.file? session.fileId = some file := by
      rw [isTables]
      exact found
    have status := SessionStatus.completable_of_running (session.holding_running parts time)
    obtain ⟨s', completes⟩ := perform_complete (s := opened.after run) (session.holding parts time)
      isComplete isSession status enough isFile uploading clean limit fresh (by rwa [kept])
    exact ⟨_, s', completes, rfl, holds.sum_of_perm planned all, count⟩

/-- A session is new when it is opened, and what its total and its chunks are is what was asked for. -/
theorem opens_of_created {before : List Transaction} {db : Database} {now : Instant}
    {token file : Uuid} {total : Int} {chunk : Option Int}
    (created : (({} : Store).after before).perform ⟨db, now, .createSession token file total chunk⟩ =
      (.ok (.session session), opened))
    (room : opened.serial ≤ 2 ^ 128) (fits : total ≤ maxInt64) :
    opened.tables.Opens session ∧ session.fileId = file ∧ session.totalSizeBytes = total ∧
      session.chunkSizeBytes = chunk.getD defaultChunkSize ∧
      opened.tables.files = (({} : Store).after before).tables.files := by
  let x : Transaction := ⟨db, now, .createSession token file total chunk⟩
  have isOpened : opened = ((({} : Store).after before).perform x).2 := by rw [created]
  -- identifiers that were in use are not used again
  have early := ((({} : Store).after before).serial_le_perform x).trans (isOpened ▸ room)
  have accounted : opened.tables.Accounted opened.serial := by
    have step := (({} : Store).after before).perform_sessions x
    rw [← isOpened] at step
    exact (after_accounted .empty before early).step step room
  rcases (({} : Store).after before).perform_cases x with
    ⟨_, failed, _⟩ | ⟨_, u, run, performed, _⟩
  · cases failed.symm.trans (congrArg Prod.fst created)
  · cases performed.symm.trans created
    obtain ⟨_, done, isSession⟩ := Stateful.run_map_eq_ok run
    cases isSession
    have opened' := UploadSettings.createSession_opened done
    obtain ⟨plan, _, _, _, isFile, status, chunks, size, _, _, rfl⟩ :=
      UploadSettings.createSession_eq_ok done
    have there : session ∈ (({} : Store).after before).tables.sessions ++ [session] :=
      List.mem_append_right _ List.mem_cons_self
    refine ⟨⟨there, fun row member same => accounted.eq_of_id member there same,
      (accounted.accounts session there).unopened status, opened', totalParts_le plan,
      size ▸ fits⟩, isFile, size, chunks, rfl⟩

/-- A chunked upload from end to end. A file is uploading, and a session has been opened for it. Its
parts have at least one octet each; every octet of the file is in just one of them, and no number is
beyond 64 bits. A client sends them in any order, whatever calls fail in between: `Transfer` says what
comes of that. The announcement needs a handle that can store events, and that there is no event of its
key in the outbox yet. -/
theorem chunked_upload {before run : List Transaction} {db : Database} {now : Instant} {token : Uuid}
    {total : Int} {chunk : Option Int} {file : UploadFile} {numbers : List Int}
    (found : (({} : Store).after before).tables.file? file.id = some file)
    (uploading : file.status = .uploading) (fits : total ≤ maxInt64)
    (created : (({} : Store).after before).perform
      ⟨db, now, .createSession token file.id total chunk⟩ = (.ok (.session session), opened))
    (sends : opened.Sends session numbers run)
    (room : (opened.after run).serial + 1 ≤ 2 ^ 128) :
    session.totalSizeBytes = total ∧ session.chunkSizeBytes = chunk.getD defaultChunkSize ∧
    (∀ number ∈ session.numbers, 1 ≤ session.length number ∧ 0 ≤ session.offset number ∧
      session.offset number + session.length number ≤ total ∧
      fitsInt64 (session.offset number + session.length number) = true) ∧
    (∀ octet, 0 ≤ octet → octet < total → ∃! number, number ∈ session.numbers ∧
      session.offset number ≤ octet ∧ octet < session.offset number + session.length number) ∧
    opened.Transfer session file numbers (opened.after run) := by
  have early : opened.serial ≤ 2 ^ 128 := (opened.serial_le_after run).trans (by omega)
  obtain ⟨opens, isFile, size, chunks, files⟩ := opens_of_created created early fits
  have planned := opens.opened.planned
  subst size
  refine ⟨rfl, chunks, fun number inRange => ?_, fun octet low high => ?_, ?_⟩
  · obtain ⟨low, high⟩ := UploadSession.mem_numbers.mp inRange
    have offset := planned.offset_nonneg low
    have length := planned.length_pos high
    have within := session.end_le number
    exact ⟨length, offset, within, fitsInt64_of_nonneg (by omega) (within.trans fits)⟩
  · simp only [UploadSession.mem_numbers]
    exact planned.covers low high
  · have clean := (after_filesClean (s := {}) (List.forall_mem_nil _) before).of_file? found
    have fresh : (opened.after run).begin.Fresh 1 := by
      have whole : opened.after run = ({} : Store).after
          (before ++ ⟨db, now, .createSession token file.id session.totalSizeBytes chunk⟩ :: run) := by
        rw [after_append, after_cons, created]
      rw [whole] at room ⊢
      exact after_fresh _ room
    refine sends.transfer opens ?_ uploading clean fresh
    rw [isFile, Tables.file?_congr files, found]

/-- Ten octets in chunks of four, the last of which comes first. Meanwhile the client tries to complete
the session, and sends a part once more and one with a digest that is none. -/
theorem chunked_upload_shuffled :
    let time : Instant := ⟨1772366400, 0⟩
    let call : Call → Transaction := fun call => ⟨{}, time, call⟩
    let s := ({} : Store).after [call (.createFile { filename := "a.txt", sizeBytes := 10 })]
    let session : UploadSession :=
      { id := Uuid.ofSerial 1
        fileId := Uuid.ofSerial 0
        status := .init
        chunkSizeBytes := 4
        totalSizeBytes := 10
        totalParts := 3
        bytesReceived := 0
        completedParts := 0
        idempotencyKey := (Uuid.ofSerial 0).fileKey
        uploadToken := Uuid.nil.plainText
        createdAt := time
        updatedAt := time }
    let opening := call (.createSession .nil (Uuid.ofSerial 0) 10 (some 4))
    let opened := (s.perform opening).2
    let part : Int → NewUploadPart := fun number =>
      { partNumber := number
        offsetBytes := session.offset number
        sizeBytes := session.length number }
    let send : NewUploadPart → Transaction := fun part => call (.recordPart session.id part)
    let complete := call (.completeSession session.id)
    let run := [send (part 3), complete, send (part 1), send (part 3),
      send { part 2 with sha256 := some "x" }, send (part 2)]
    ∃ file, s.tables.file? (Uuid.ofSerial 0) = some file ∧ file.status = .uploading ∧
      s.perform opening = (.ok (.session session), opened) ∧
      opened.Sends session [3, 1, 2] run ∧ (opened.after run).serial + 1 ≤ 2 ^ 128 ∧
      ∃ done s', (opened.after run).Completes complete file done s' ∧ done.bytesReceived = 10 ∧
        done.completedParts = 3 := by
  intro time call s session opening opened part send complete run
  obtain ⟨file, found, uploading⟩ : ∃ file, s.tables.file? (Uuid.ofSerial 0) = some file ∧
      file.status = .uploading :=
    Option.map_eq_some_iff.mp
      (by decide +kernel : (s.tables.file? (Uuid.ofSerial 0)).map (·.status) = some .uploading)
  have created : s.perform opening = (.ok (.session session), opened) := by
    obtain ⟨ok, none, rows⟩ : (s.perform opening).1.isOk = true ∧ s.tables.sessions = [] ∧
        (s.perform opening).2.tables.sessions = [session] := by decide +kernel
    refine Prod.ext ?_ rfl
    rcases s.perform_cases opening with ⟨_, failed, _⟩ | ⟨_, u, run, performed, _⟩
    · rw [failed] at ok
      cases ok
    · obtain ⟨row, opens, rfl⟩ := Stateful.run_map_eq_ok run
      obtain ⟨_, _, _, _, _, _, _, _, _, _, rfl⟩ := UploadSettings.createSession_eq_ok opens
      rw [performed] at rows ⊢
      change s.tables.sessions ++ [row] = [session] at rows
      rw [none] at rows
      cases rows
      rfl
  have isId : file.id = Uuid.ofSerial 0 := Tables.id_of_file? found
  have fits : ∀ number ∈ session.numbers, (part number).Fits session := fun number inRange =>
    ⟨inRange, rfl, rfl, nofun, rfl⟩
  have three : session.numbers = [1, 2, 3] := by decide
  have third : opened.Sends session [3] [send (part 3), complete] :=
    .early (.part .start rfl (fits 3 (by rw [three]; decide)) nofun) rfl (by decide)
  have again : (part 3).Wrong session [3, 1] := .inr (.inr (.inr (.inr (by decide))))
  have noDigest : ({ part 2 with sha256 := some "x" } : NewUploadPart).Wrong session [3, 1] :=
    .inr (.inr (.inl ⟨"x", rfl, by decide, by decide +kernel⟩))
  have first : opened.Sends session [3, 1] [send (part 3), complete, send (part 1)] :=
    .part third rfl (fits 1 (by rw [three]; decide)) (by decide)
  have sends : opened.Sends session [3, 1, 2] run :=
    .part (.wrong (.wrong first rfl again) rfl noDigest) rfl (fits 2 (by rw [three]; decide))
      (by decide)
  have room : (opened.after run).serial + 1 ≤ 2 ^ 128 := by decide +kernel
  have opens : s.perform (call (.createSession .nil file.id 10 (some 4))) =
      (.ok (.session session), opened) := by
    rw [isId]
    exact created
  obtain ⟨_, _, _, _, transfer⟩ := chunked_upload (isId.symm ▸ found) uploading (by decide) opens
    sends room
  have free : (opened.rows .core).hasKey fileStored file.id.fileKey = false := by
    rw [isId]
    decide +kernel
  obtain ⟨done, s', completes, _, bytes, count⟩ :=
    transfer.completes (by rw [three]; decide) complete rfl OutboxSettings.default_storable free
  exact ⟨file, found, uploading, created, sends, room, done, s', completes, bytes, count⟩

/-- If somebody has emitted an event of the key that the file will have, the session cannot be
completed, though all parts are there: the announcement repeats the key. -/
theorem earlier_event_blocks_completion :
    let time : Instant := ⟨1772366400, 0⟩
    let call : Call → Transaction := fun call => ⟨{}, time, call⟩
    let file := Uuid.ofSerial 0
    let session := Uuid.ofSerial 2
    let s := ({} : Store).after [call (.createFile { filename := "a.txt", sizeBytes := 10 }),
      call (.emit ⟨"UploadFile", file.text, fileStored, none, none⟩),
      call (.createSession .nil file 10 (some 10)),
      call (.recordPart session { partNumber := 1, offsetBytes := 0, sizeBytes := 10 })]
    let ended := s.perform (call (.completeSession session))
    (s.tables.session? session).map (fun row => (row.completedParts, row.totalParts)) =
        some (1, 1) ∧
      ended.1.isOk = false ∧ ended.2.tables.fileStatus? file = some .uploading := by
  decide +kernel

end Store

end OutboxRelay
