import OutboxRelay.Proofs.WorkRun
import OutboxRelay.Store.Call

namespace OutboxRelay

/-- Operations whose statements and transactions end one after the other do to every store what
`work` does as one unit of work: it is committed if it succeeds, and dropped if it fails. -/
def IsUnit {α : Type} (operations : Access α) (work : Work α) : Prop :=
  ∀ s : Store, operations.run s = s.atomic work

@[simp] theorem run_reportMiss {α : Type} (entity : String) (id : Uuid) (isThere : Tables → Bool)
    (expected : String) (u : UnitOfWork) :
    (reportMiss entity id isThere expected : Work α).run u =
      (.error (missed entity id (isThere u.tables) expected), u) := rfl

namespace IsUnit
variable {α β : Type} {p : α → Access β} {w : α → Work β}

theorem transaction (work : Work α) : IsUnit (MonadStore.transaction work) work := fun _ => rfl

theorem statement (work : Work α) : IsUnit (MonadStore.statement work) work := fun _ => rfl

theorem of_pure (a : α) : IsUnit (pure a) (pure a) := fun _ => rfl

theorem map {operations : Access α} {work : Work α} (unit : IsUnit operations work) (g : α → β) :
    IsUnit (g <$> operations) (g <$> work) := by
  intro s
  rw [Stateful.run_map, unit s]
  rcases run : work.run s.begin with ⟨_ | _, _⟩
  · rw [Store.atomic_error run, Store.atomic_map_error g run]
    rfl
  · rw [Store.atomic_ok run, Store.atomic_map_ok g run]
    rfl

/-- A check ahead of everything else. -/
theorem lift_bind {x : Except Error α} (rest : ∀ a, IsUnit (p a) (w a)) :
    IsUnit ((liftM x : Access α) >>= p) ((liftM x : Work α) >>= w) := by
  cases x with
  | error e => exact fun _ => rfl
  | ok a => exact rest a

theorem freshId_bind {p : Uuid → Access β} {w : Uuid → Work β} (rest : ∀ id, IsUnit (p id) (w id)) :
    IsUnit (MonadStore.freshId >>= p) (MonadStore.freshId >>= w) := by
  intro s
  have taken : (MonadStore.freshId : Access Uuid).run s =
    (.ok (Uuid.ofSerial s.serial), { s with serial := s.serial + 1 }) := rfl
  have begun : (MonadStore.freshId >>= w).run s.begin = (w (Uuid.ofSerial s.serial)).run
    ({ s with serial := s.serial + 1 } : Store).begin := Work.run_freshId_bind w s.begin
  rw [Stateful.run_bind_ok taken, rest]
  rcases run : (w (Uuid.ofSerial s.serial)).run
    ({ s with serial := s.serial + 1 } : Store).begin with ⟨_ | _, u⟩
  · rw [Store.atomic_error run, Store.atomic_error (begun.trans run)]
    rfl
  · rw [Store.atomic_ok run, Store.atomic_ok (begun.trans run)]
    rfl

/-- A statement that only reads, ahead of the rest. -/
theorem read_bind {q : Work α} (reads : ∀ u, (q.run u).2 = u) (rest : ∀ a, IsUnit (p a) (w a)) :
    IsUnit (MonadStore.statement q >>= p) (q >>= w) := by
  intro s
  have same := reads s.begin
  rw [Stateful.run_bind, statement q s]
  rcases run : q.run s.begin with ⟨e | a, u⟩
  · rw [Store.atomic_error run, Store.atomic_error (Stateful.run_bind_error run)]
  · rw [run] at same
    cases same
    rw [Store.atomic_ok run]
    change (p a).run s = s.atomic (q >>= w)
    rw [rest, Store.atomic, Store.atomic, Stateful.run_bind_ok run]
    rfl

section Miss
variable {work : Work (Option α)} {p : Option α → Access α} {w : Option α → Work α}
  {miss : Work α} (found : ∀ a, p (some a) = pure a) (found' : ∀ a, w (some a) = pure a)
  (lost : p none = MonadStore.statement miss) (lost' : w none = miss)
include found found' lost lost'

/-- A transaction that may be given up, and then a statement that only tells why. -/
theorem given_up (misses : ∀ u v, work.run u = (.ok none, v) → ∃ e, miss.run v = (.error e, v) ∧
      miss.run { u with serial := v.serial } = (.error e, { u with serial := v.serial })) :
    IsUnit (MonadStore.transaction? work >>= p) (work >>= w) := by
  intro s
  have begun : (MonadStore.transaction? work : Access (Option α)).run s = s.atomic? work := rfl
  rw [Stateful.run_bind, begun, Store.atomic?]
  rcases run : work.run s.begin with ⟨e | ⟨_ | a⟩, u⟩
  · rw [Store.atomic_error (Stateful.run_bind_error run)]
  · obtain ⟨e, there, here⟩ := misses _ _ run
    have failed : (work >>= w).run s.begin = (.error e, u) := by
      rw [Stateful.run_bind_ok run, lost', there]
    have again : miss.run (s.rollback u).begin = (.error e, (s.rollback u).begin) := here
    rw [Store.atomic_error failed]
    change (p none).run (s.rollback u) = _
    rw [lost, statement miss, Store.atomic_error again]
    rfl
  · have done : (work >>= w).run s.begin = (.ok a, u) := by
      rw [Stateful.run_bind_ok run, found']
      rfl
    rw [Store.atomic_ok done]
    change (p (some a)).run (s.commit u) = _
    rw [found]
    rfl

/-- A conditional write, and if it reached no row a statement that only tells why. -/
theorem conditional (kept : ∀ u v, work.run u = (.ok none, v) → v = u)
    (fails : ∀ u, ∃ e, miss.run u = (.error e, u)) :
    IsUnit (MonadStore.statement work >>= p) (work >>= w) := by
  intro s
  rw [Stateful.run_bind, statement work s]
  rcases run : work.run s.begin with ⟨e | ⟨_ | a⟩, u⟩
  · rw [Store.atomic_error run, Store.atomic_error (Stateful.run_bind_error run)]
  · cases kept _ _ run
    obtain ⟨e, failed⟩ := fails s.begin
    rw [Store.atomic_ok run]
    change (p none).run s = _
    rw [lost, statement miss, Store.atomic, Store.atomic, Stateful.run_bind_ok run, lost']
  · have done : (work >>= w).run s.begin = (.ok a, u) := by
      rw [Stateful.run_bind_ok run, found']
      rfl
    rw [Store.atomic_ok run, Store.atomic_ok done]
    change (p (some a)).run (s.commit u) = _
    rw [found]
    rfl

end Miss

end IsUnit

section Calls
variable (now : Instant)

namespace UploadSettings

theorem createBatch_isUnit (createdBy : Option Uuid) (key : Option String) :
    IsUnit (createBatch now createdBy key) (createBatch now createdBy key) :=
  .freshId_bind fun _ => .statement _

theorem startBatch_isUnit (id : Uuid) : IsUnit (startBatch now id) (startBatch now id) := by
  refine .conditional (fun _ => rfl) (fun _ => rfl) rfl rfl (fun u v run => ?_)
    fun u => ⟨_, run_reportMiss _ _ _ _ u⟩
  rw [advanceBatch, Work.run_tables_bind] at run
  split at run
  · cases run
  · cases run
    rfl

theorem createFile_isUnit (settings : UploadSettings) (request : NewUploadFile) :
    IsUnit (settings.createFile now request) (settings.createFile now request) :=
  .lift_bind fun _ => .transaction _

theorem transitionFile_isUnit (settings : UploadSettings) (id : Uuid) (sources : List FileStatus)
    (target : FileStatus) (message eventType : Option String) :
    IsUnit (settings.transitionFile now id sources target message eventType)
      (settings.transitionFile now id sources target message eventType) := by
  refine .given_up (fun _ => rfl) (fun _ => rfl) rfl rfl fun u v run => ?_
  -- what is given up has written nothing
  have kept : v = u := by
    obtain ⟨moved, between, first, rest⟩ := Stateful.run_bind_eq_ok_iff.mp run
    cases moved with
    | none =>
      cases rest
      rw [moveFile] at first
      obtain ⟨_, _, first⟩ := Work.run_lift_bind_eq_ok_iff.mp first
      rw [Work.run_tables_bind] at first
      split at first <;> cases first
      rfl
    | some file =>
      dsimp only at rest
      split at rest
      · obtain ⟨_, _, _, returned⟩ := Stateful.run_bind_eq_ok_iff.mp rest
        cases returned
      · cases rest
  cases kept
  exact ⟨_, run_reportMiss _ _ _ _ _, run_reportMiss _ _ _ _ _⟩

theorem createSession_isUnit (token file : Uuid) (total : Int) (chunk : Option Int) :
    IsUnit (createSession now token file total chunk) (createSession now token file total chunk) :=
  .lift_bind fun _ => .freshId_bind fun _ => .statement _

theorem partsOf_reads (session : Uuid) (u : UnitOfWork) : ((partsOf session).run u).2 = u := by
  rw [partsOf, Work.run_tables_bind]
  split <;> rfl

theorem insertPart_sessions {session : Uuid} {part : NewUploadPart} {recorded : UploadPart}
    {u v : UnitOfWork} (run : (insertPart now session part).run u = (.ok recorded, v)) :
    v.tables.sessions = u.tables.sessions := by
  rw [insertPart, Work.run_freshId_bind] at run
  obtain ⟨_, _, run⟩ := Work.run_lift_bind_eq_ok_iff.mp run
  rw [Work.run_tables_bind] at run
  dsimp only at run
  split at run
  · cases run
  · cases run
    rfl

/-- A part that is not counted is not recorded either. -/
theorem recordPart_isUnit (session : Uuid) (part : NewUploadPart) :
    IsUnit (recordPart now session part) (recordPart now session part) := by
  refine .lift_bind fun _ => .read_bind (partsOf_reads session) fun total => .lift_bind fun _ => ?_
  refine .given_up (fun _ => rfl) (fun _ => rfl) rfl rfl fun u v run => ?_
  have sessions : v.tables.sessions = u.tables.sessions := by
    obtain ⟨recorded, between, inserted, rest⟩ := Stateful.run_bind_eq_ok_iff.mp run
    obtain ⟨isCounted, last, counted, returned⟩ := Stateful.run_bind_eq_ok_iff.mp rest
    cases isCounted with
    | true => cases returned
    | false =>
      cases returned
      rw [advanceSession, Work.run_tables_bind] at counted
      split at counted
      · dsimp only at counted
        split at counted <;> cases counted
      · cases counted
        exact insertPart_sessions now inserted
  have there : v.tables.session? session = u.tables.session? session := by
    unfold Tables.session?
    rw [sessions]
  refine ⟨_, run_reportMiss _ _ _ _ _, ?_⟩
  rw [there]
  exact run_reportMiss _ _ _ _ _

theorem terminateSession_isUnit (id : Uuid) (target : SessionStatus) :
    IsUnit (terminateSession now id target) (terminateSession now id target) := by
  refine .conditional (fun _ => rfl) (fun _ => rfl) rfl rfl (fun u v run => ?_)
    fun u => ⟨_, run_reportMiss _ _ _ _ u⟩
  rw [concludeSession, Work.run_tables_bind] at run
  split at run
  · cases run
  · cases run
    rfl

end UploadSettings

theorem registerEndpoint_isUnit (request : NewEndpoint) :
    IsUnit (registerEndpoint now request) (registerEndpoint now request) :=
  .freshId_bind fun _ => .statement _

namespace OutboxTable
variable (table : OutboxTable)

theorem fetchDue_isUnit (time : Instant) (limit : Int) (lease : Period) :
    IsUnit (table.fetchDue time limit lease now) (table.fetchDue time limit lease now) :=
  .lift_bind fun _ => .transaction _

theorem release_isUnit (entries : List OutboxEntry) :
    IsUnit (table.release entries now) (table.release entries now) := by
  unfold release
  split
  · exact .of_pure 0
  · exact .transaction _

theorem applyTransitions_isUnit (transitions : List EntryTransition) :
    IsUnit (table.applyTransitions transitions now) (table.applyTransitions transitions now) := by
  unfold applyTransitions
  split
  · exact .of_pure []
  · exact .transaction _

theorem requeueFailed_isUnit (ids : List Uuid) (due : Instant) :
    IsUnit (table.requeueFailed ids due now) (table.requeueFailed ids due now) := by
  unfold requeueFailed
  split
  · exact .of_pure 0
  · exact .statement _

end OutboxTable

/-- However a call divides into statements and transactions, it does to the store what it does as
one unit of work. -/
theorem Call.run_isUnit (db : Database) (call : Call) : IsUnit (call.run db now) (call.run db now) := by
  cases call with
  | emit event => exact (IsUnit.transaction _).map _
  | emitAll events => exact (IsUnit.transaction _).map _
  | fetchDue time limit lease => exact (db.outbox.table.fetchDue_isUnit now time limit lease).map _
  | release entries => exact (db.outbox.table.release_isUnit now entries).map _
  | applyTransitions transitions =>
    exact (db.outbox.table.applyTransitions_isUnit now transitions).map _
  | cleanup cutoff limit => exact (IsUnit.transaction _).map _
  | requeueFailed ids due => exact (db.outbox.table.requeueFailed_isUnit now ids due).map _
  | createEndpoint request => exact (registerEndpoint_isUnit now request).map _
  | updateEndpoint id change => exact (IsUnit.statement _).map _
  | deleteEndpoint id => exact (IsUnit.statement _).map _
  | createBatch createdBy key => exact (UploadSettings.createBatch_isUnit now createdBy key).map _
  | startBatch id => exact (UploadSettings.startBatch_isUnit now id).map _
  | finalizeBatch id => exact (IsUnit.transaction _).map _
  | createFile request => exact (UploadSettings.createFile_isUnit now db.uploads request).map _
  | markFileStored | markFileProcessed | markFileFailed | markFileDeleted =>
    exact (UploadSettings.transitionFile_isUnit now db.uploads _ _ _ _ _).map _
  | createSession token file total chunk =>
    exact (UploadSettings.createSession_isUnit now token file total chunk).map _
  | recordPart session part => exact (UploadSettings.recordPart_isUnit now session part).map _
  | completeSession id => exact (IsUnit.transaction _).map _
  | abortSession | failSession => exact (UploadSettings.terminateSession_isUnit now _ _).map _
  | cleanupFiles cutoff limit => exact (IsUnit.transaction _).map _

end Calls

end OutboxRelay
