import OutboxRelay.Proofs.BatchStep
import OutboxRelay.Proofs.FailedCalls

namespace OutboxRelay

/-- What a unit has gained: `new` in the outbox of the settings and in no other, with the limit of
attempts and a hook for each that the settings tell. -/
structure UnitOfWork.Gains (settings : OutboxSettings) (u v : UnitOfWork) (new : List OutboxEntry) :
    Prop where
  rows : ∀ table, v.tables.outbox table =
    u.tables.outbox table ++ if settings.table = table then new else []
  limit : ∀ entry ∈ new, entry.maxAttempts = settings.maxAttempts
  hooks : v.hooks = u.hooks ++ new.map fun _ => .schedule settings.trigger

namespace UnitOfWork.Gains
variable {settings : OutboxSettings} {u v w : UnitOfWork} {new more : List OutboxEntry}

theorem quiet (core : v.tables.core = u.tables.core) (portal : v.tables.portal = u.tables.portal)
    (hooks : v.hooks = u.hooks) : Gains settings u v [] where
  rows table := by
    rw [ite_self, List.append_nil]
    exact Tables.outbox_congr core portal table
  limit := List.forall_mem_nil _
  hooks := hooks.trans (List.append_nil _).symm

theorem trans (first : Gains settings u v new) (rest : Gains settings v w more) :
    Gains settings u w (new ++ more) where
  rows table := by
    rw [rest.rows, first.rows, List.append_assoc]
    split <;> rfl
  limit := List.forall_mem_append.mpr ⟨first.limit, rest.limit⟩
  hooks := by rw [rest.hooks, first.hooks, List.append_assoc, List.map_append]

end UnitOfWork.Gains

section Steps
variable {u v : UnitOfWork} {now : Instant}

theorem OutboxSettings.emit_gains {settings : OutboxSettings} {event : NewOutboxEvent}
    {entry : OutboxEntry} (run : (settings.emit now event).run u = (.ok entry, v)) :
    u.Gains settings v [entry] := by
  refine ⟨emit_rows run, List.forall_mem_singleton.mpr ?_, ?_⟩
  · rw [(emit_eq_ok run).1]
    rfl
  · obtain ⟨_, _, _, rfl⟩ := emit_eq_ok run
    rfl

/-- The event is the first thing that the unit gains. -/
theorem OutboxSettings.emit_gains_of_quiet {settings : OutboxSettings} {event : NewOutboxEvent}
    {entry : OutboxEntry} {between : UnitOfWork}
    (run : (settings.emit now event).run between = (.ok entry, v)) (quiet : u.Gains settings between []) :
    u.Gains settings v [entry] :=
  quiet.trans (emit_gains run)

theorem OutboxSettings.emitAll_gains {settings : OutboxSettings} {events : List NewOutboxEvent}
    {entries : List OutboxEntry} (run : (settings.emitAll now events).run u = (.ok entries, v)) :
    u.Gains settings v entries := by
  induction events generalizing u entries with
  | nil =>
    cases run
    exact .quiet rfl rfl rfl
  | cons event rest ih =>
    rw [emitAll, List.mapM_cons] at run
    obtain ⟨entry, between, first, others⟩ := Stateful.run_bind_eq_ok_iff.mp run
    obtain ⟨more, last, second, returned⟩ := Stateful.run_bind_eq_ok_iff.mp others
    cases returned
    exact (emit_gains first).trans (ih second)

namespace UploadSettings
variable {settings : UploadSettings}

theorem transitionFile_gains {id : Uuid} {sources : List FileStatus} {target : FileStatus}
    {message eventType : Option String} {moved : UploadFile}
    (run : (settings.transitionFile now id sources target message eventType : Work UploadFile).run u =
      (.ok moved, v)) : ∃ new, u.Gains settings.outbox v new := by
  obtain ⟨_, _, _, _, rest⟩ := transitionFile_eq_ok run
  cases eventType with
  | none =>
    rw [rest]
    exact ⟨_, .quiet rfl rfl rfl⟩
  | some type =>
    obtain ⟨_, emitted⟩ := rest
    exact ⟨_, OutboxSettings.emit_gains_of_quiet emitted (.quiet rfl rfl rfl)⟩

theorem createFile_gains {request : NewUploadFile} {file : UploadFile}
    (run : (settings.createFile now request : Work UploadFile).run u = (.ok file, v)) :
    ∃ new, u.Gains settings.outbox v new := by
  obtain ⟨_, _, _, between, rfl, rest⟩ := createFile_eq_ok run
  split at rest
  · obtain ⟨_, emitted⟩ := rest
    exact ⟨_, OutboxSettings.emit_gains_of_quiet emitted (.quiet rfl rfl rfl)⟩
  · subst rest
    exact ⟨_, .quiet rfl rfl rfl⟩

theorem completeSession_gains {id : Uuid} {completed : UploadSession}
    (run : (settings.completeSession now id : Work UploadSession).run u = (.ok completed, v)) :
    ∃ new, u.Gains settings.outbox v new := by
  obtain ⟨_, _, _, _, _, _, ⟨_, _, _, _, emitted⟩ | ⟨_, rfl⟩⟩ := completeSession_eq_ok run
  · exact ⟨_, OutboxSettings.emit_gains_of_quiet emitted (.quiet rfl rfl rfl)⟩
  · exact ⟨_, .quiet rfl rfl rfl⟩

/-- An event that is there already is not gained again. -/
theorem finalizeBatch_gains {id : Uuid} {status : BatchStatus}
    (run : (settings.finalizeBatch now id : Work BatchStatus).run u = (.ok status, v)) :
    ∃ new, u.Gains settings.outbox v new := by
  obtain ⟨_, _, _, _, ⟨_, rfl⟩ | ⟨_, result, absorbed, announced⟩⟩ :=
    finalizeBatch_eq_ok run
  · exact ⟨_, .quiet rfl rfl rfl⟩
  · cases result with
    | ok entry => exact ⟨_, OutboxSettings.emit_gains_of_quiet announced (.quiet rfl rfl rfl)⟩
    | error e =>
      obtain ⟨_, _, rfl⟩ := Error.isDuplicateEvent_iff.mp (absorbed_error_eq_ok_iff.mp absorbed)
      rw [OutboxSettings.emit_eq_duplicate settings.outbox now _ announced]
      exact ⟨_, .quiet rfl rfl rfl⟩

theorem cleanupExpiredFiles_gains {cutoff : Instant} {limit : Int} {stats : CleanupStats}
    (run : (cleanupExpiredFiles cutoff limit : Work CleanupStats).run u = (.ok stats, v))
    (settings : OutboxSettings) :
    u.Gains settings v [] := by
  rcases cleanupExpiredFiles_eq_ok run with rfl | ⟨_, rfl⟩ <;> exact .quiet rfl rfl rfl

end UploadSettings

end Steps

/-- A call that does not rework an outbox gains through the settings of its handle, if those of uploads
are the same. -/
theorem Call.run_gains {db : Database} {now : Instant} {call : Call} {reply : Reply}
    {u v : UnitOfWork} (wired : db.uploads.outbox = db.outbox) (appends : call.reworks = false)
    (run : (call.run db now : Work Reply).run u = (.ok reply, v)) : ∃ new, u.Gains db.outbox v new := by
  cases call with
  | fetchDue | release | applyTransitions | cleanup | requeueFailed => cases appends
  | emit event =>
    obtain ⟨_, emitted, _⟩ := Stateful.run_map_eq_ok run
    exact ⟨_, OutboxSettings.emit_gains emitted⟩
  | emitAll events =>
    obtain ⟨_, emitted, _⟩ := Stateful.run_map_eq_ok run
    exact ⟨_, OutboxSettings.emitAll_gains emitted⟩
  | createEndpoint request =>
    obtain ⟨_, done, _⟩ := Stateful.run_map_eq_ok run
    rw [registerEndpoint, Work.freshId_part, Work.run_freshId_bind] at done
    obtain ⟨_, rfl⟩ := Work.onEndpoints_eq_ok done
    exact ⟨_, .quiet rfl rfl rfl⟩
  | updateEndpoint | deleteEndpoint =>
    obtain ⟨_, done, _⟩ := Stateful.run_map_eq_ok run
    obtain ⟨_, rfl⟩ := Work.onEndpoints_eq_ok done
    exact ⟨_, .quiet rfl rfl rfl⟩
  | createBatch createdBy key =>
    obtain ⟨_, done, _⟩ := Stateful.run_map_eq_ok run
    obtain ⟨_, _, rfl⟩ := UploadSettings.createBatch_eq_ok done
    exact ⟨_, .quiet rfl rfl rfl⟩
  | startBatch id =>
    obtain ⟨_, done, _⟩ := Stateful.run_map_eq_ok run
    obtain ⟨_, _, _, _, rfl⟩ := UploadSettings.startBatch_eq_ok done
    exact ⟨_, .quiet rfl rfl rfl⟩
  | finalizeBatch id =>
    obtain ⟨_, done, _⟩ := Stateful.run_map_eq_ok run
    exact wired ▸ UploadSettings.finalizeBatch_gains done
  | createFile request =>
    obtain ⟨_, done, _⟩ := Stateful.run_map_eq_ok run
    exact wired ▸ UploadSettings.createFile_gains done
  | markFileStored | markFileProcessed | markFileFailed | markFileDeleted =>
    obtain ⟨_, done, _⟩ := Stateful.run_map_eq_ok run
    exact wired ▸ UploadSettings.transitionFile_gains done
  | createSession token file total chunk =>
    obtain ⟨_, done, _⟩ := Stateful.run_map_eq_ok run
    obtain ⟨_, _, _, _, _, _, _, _, _, _, rfl⟩ := UploadSettings.createSession_eq_ok done
    exact ⟨_, .quiet rfl rfl rfl⟩
  | recordPart session part =>
    obtain ⟨_, done, _⟩ := Stateful.run_map_eq_ok run
    obtain ⟨_, _, _, _, _, _, _, _, _, _, _, _, _, rfl⟩ := UploadSettings.recordPart_eq_ok done
    exact ⟨_, .quiet rfl rfl rfl⟩
  | completeSession id =>
    obtain ⟨_, done, _⟩ := Stateful.run_map_eq_ok run
    exact wired ▸ UploadSettings.completeSession_gains done
  | abortSession | failSession =>
    obtain ⟨_, done, _⟩ := Stateful.run_map_eq_ok run
    obtain ⟨_, _, _, _, rfl⟩ := UploadSettings.terminateSession_eq_ok done
    exact ⟨_, .quiet rfl rfl rfl⟩
  | cleanupFiles cutoff limit =>
    obtain ⟨_, done, _⟩ := Stateful.run_map_eq_ok run
    exact ⟨_, UploadSettings.cleanupExpiredFiles_gains done _⟩

namespace Store
variable {s : Store} {x : Transaction} {settings : OutboxSettings}

/-- A call emits `new` through the settings, and nothing else: all of it goes to their table, with their
limit of attempts, and what runs after the commit asks their trigger once for each. -/
structure EmitsBy (s : Store) (x : Transaction) (settings : OutboxSettings) (new : List OutboxEntry) :
    Prop where
  emissions : ∀ table, s.emissions table x = if settings.table = table then new else []
  limit : ∀ entry ∈ new, entry.maxAttempts = settings.maxAttempts
  ran : (s.perform x).2.ran = s.ran ++ new.map fun _ => .schedule settings.trigger

theorem emitsBy_nil (silent : ∀ table, s.emissions table x = [])
    (ran : (s.perform x).2.ran = s.ran) : s.EmitsBy x settings [] where
  emissions table := (silent table).trans (ite_self _).symm
  limit := List.forall_mem_nil _
  ran := ran.trans (List.append_nil _).symm

/-- What a call emits that does not rework an outbox stands after what was there. -/
theorem emitsAdded_of_appends (appends : x.call.reworks = false) : s.EmitsAdded x := by
  intro table
  obtain ⟨db, now, call⟩ := x
  have after : ∀ {call : Call}, s.Course table ⟨db, now, call⟩ (fun row => row) →
      (∀ row, s.deletes table ⟨db, now, call⟩ row = false) →
      s.emissions table ⟨db, now, call⟩ =
        ((s.perform ⟨db, now, call⟩).2.rows table).drop (s.rows table).length := by
    intro call course keeps
    have all := List.filter_eq_self.mpr fun row (_ : row ∈ s.rows table) =>
      (congrArg not (keeps row)).trans Bool.not_false
    rw [course.rows, all, List.map_id'' fun _ => rfl, List.drop_left]
  cases call with
  | fetchDue | release | applyTransitions | cleanup | requeueFailed => cases appends
  | emit event => exact after course_of_emit fun _ => rfl
  | emitAll events => exact after course_of_emitAll fun _ => rfl
  | _ => rfl

/-- A write to an outbox asks for no sweep. -/
theorem ran_of_write {α : Type} {operation : OutboxRows → Except Error (α × OutboxRows)}
    {g : α → Reply}
    (performed : s.perform x = s.atomic (g <$> Work.onOutbox x.db.outbox.table operation)) :
    (s.perform x).2.ran = s.ran := by
  rw [performed, atomic_onOutbox]
  split <;> rfl

/-- All that a handle emits goes through its settings, if those of uploads are the same. -/
theorem perform_emitsBy (s : Store) (wired : x.db.uploads.outbox = x.db.outbox) :
    ∃ new, s.EmitsBy x x.db.outbox new := by
  cases appends : x.call.reworks with
  | true =>
    obtain ⟨db, now, call⟩ := x
    cases call with
    | fetchDue time limit lease =>
      exact ⟨[], emitsBy_nil (fun _ => rfl) (ran_of_write (s.perform_fetchDue db now time limit lease))⟩
    | release entries =>
      exact ⟨[], emitsBy_nil (fun _ => rfl) (ran_of_write (s.perform_release db now entries))⟩
    | applyTransitions transitions =>
      exact ⟨[], emitsBy_nil (fun _ => rfl)
        (ran_of_write (s.perform_applyTransitions db now transitions))⟩
    | cleanup cutoff limit =>
      exact ⟨[], emitsBy_nil (fun _ => rfl) (ran_of_write (s.perform_cleanup db now cutoff limit))⟩
    | requeueFailed ids due =>
      exact ⟨[], emitsBy_nil (fun _ => rfl) (ran_of_write (s.perform_requeueFailed db now ids due))⟩
    | _ => cases appends
  | false =>
    rcases s.perform_cases x with ⟨e, failed, kept, _⟩ | ⟨reply, u, run, performed, _⟩
    · obtain ⟨u, run⟩ := perform_eq_error_iff.mp failed
      refine ⟨[], emitsBy_nil (fun _ => emissions_of_error failed kept) ?_⟩
      rw [perform_of_error run]
      rfl
    · obtain ⟨new, gains⟩ := Call.run_gains wired appends run
      refine ⟨new, fun table => (emitsAdded_of_appends appends).emissions ?_, gains.limit, ?_⟩
      · rw [performed]
        exact gains.rows table
      · rw [performed]
        rw [commit_ran, gains.hooks]
        rfl

end Store

end OutboxRelay
