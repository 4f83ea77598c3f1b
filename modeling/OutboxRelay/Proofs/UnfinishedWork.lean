import OutboxRelay.Proofs.StoredPayload
import OutboxRelay.Proofs.StoreRun
import OutboxRelay.Proofs.UploadWrites

namespace OutboxRelay

namespace Stateful
variable {σ α β : Type}

/-- A computation of two parts fails where one of them does. -/
theorem run_bind_eq_error {w : ExceptT Error (StateM σ) α} {f : α → ExceptT Error (StateM σ) β}
    {s s' : σ} {e : Error} (run : (w >>= f).run s = (.error e, s')) :
    w.run s = (.error e, s') ∨ ∃ a v, w.run s = (.ok a, v) ∧ (f a).run v = (.error e, s') := by
  rw [run_bind] at run
  rcases first : w.run s with ⟨cause | a, v⟩
  · rw [first] at run
    cases run
    exact .inl rfl
  · rw [first] at run
    exact .inr ⟨a, v, rfl, run⟩

theorem run_map_eq_error_iff {g : α → β} {w : ExceptT Error (StateM σ) α} {s s' : σ} {e : Error} :
    (g <$> w).run s = (.error e, s') ↔ w.run s = (.error e, s') := by
  rw [run_map]
  rcases w.run s with ⟨cause | a, v⟩ <;> constructor <;> rintro ⟨⟩
  · rfl
  · rfl

theorem run_map_eq_error {g : α → β} {w : ExceptT Error (StateM σ) α} {s s' : σ} {e : Error}
    (run : (g <$> w).run s = (.error e, s')) : w.run s = (.error e, s') :=
  run_map_eq_error_iff.mp run

end Stateful

/-- What a unit makes visible if it is committed. -/
def UnitOfWork.effect (u : UnitOfWork) : Tables × List Hook := (u.tables, u.hooks)

namespace Work
variable {α β : Type} {u v : UnitOfWork} {e : Error}

theorem run_lift_bind_eq_error {x : Except Error β} {f : β → Work α}
    (run : ((liftM x : Work β) >>= f).run u = (.error e, v)) :
    v = u ∨ ∃ b, (f b).run u = (.error e, v) := by
  rw [Stateful.run_bind, Stateful.run_lift] at run
  cases x with
  | error cause =>
    cases run
    exact .inl rfl
  | ok b => exact .inr ⟨b, run⟩

theorem onOutbox_eq_error {table : OutboxTable} {operation : OutboxRows → Except Error (α × OutboxRows)}
    (run : (onOutbox table operation).run u = (.error e, v)) : v.effect = u.effect := by
  rcases Bool.eq_false_or_eq_true u.isAborted with aborted | usable
  · rw [run_onOutbox_aborted table operation aborted] at run
    cases run
    rfl
  · rw [run_onOutbox table operation usable] at run
    split at run <;> cases run
    rfl

theorem onEndpoints_eq_error {operation : EndpointRows → Except Error (α × EndpointRows)}
    (run : (onEndpoints operation).run u = (.error e, v)) : v = u := by
  rw [onEndpoints, run_tables_bind] at run
  split at run <;> cases run
  rfl

end Work

/-- A loop that writes to the rows of a table for one element of a list after the other. `run` is
what it does to the rows, and `step` what it does for one element. -/
structure RowLoop {α β γ : Type} (table : OutboxTable) (loop : List α → Work γ)
    (run : OutboxRows → List α → Except Error (γ × OutboxRows))
    (step : OutboxRows → α → Except Error (β × OutboxRows)) : Prop where
  nil : ∃ c, loop [] = pure c ∧ ∀ rows, run rows [] = .ok (c, rows)
  cons : ∀ a rest, ∃ g : β → γ → γ,
    loop (a :: rest) = (Work.onOutbox table fun rows => step rows a) >>= (fun b => g b <$> loop rest) ∧
    (∀ {rows e}, step rows a = .error e → run rows (a :: rest) = .error e) ∧
    ∀ {rows b next}, step rows a = .ok (b, next) →
      run rows (a :: rest) = (run next rest).map (Prod.map (g b) id)

namespace RowLoop
variable {α β γ : Type} {table : OutboxTable} {loop : List α → Work γ}
  {run : OutboxRows → List α → Except Error (γ × OutboxRows)}
  {step : OutboxRows → α → Except Error (β × OutboxRows)} {list : List α} {u v : UnitOfWork}
  {e : Error}

theorem map_eq_ok {x : Except Error (γ × OutboxRows)} {g : γ → γ} {c : γ} {last : OutboxRows}
    (mapped : x.map (Prod.map g id) = .ok (c, last)) : ∃ c, x = .ok (c, last) := by
  cases x with
  | error cause => cases mapped
  | ok value =>
    cases mapped
    exact ⟨value.1, rfl⟩

/-- The writes for a list fail at one of its elements, and those before it come to `left`. -/
def FailsAt (run : OutboxRows → List α → Except Error (γ × OutboxRows))
    (step : OutboxRows → α → Except Error (β × OutboxRows)) (rows : OutboxRows) (list : List α)
    (e : Error) (left : OutboxRows) : Prop :=
  ∃ done a rest c, list = done ++ a :: rest ∧ run rows done = .ok (c, left) ∧
    step left a = .error e

theorem not_failsAt_nil {rows left : OutboxRows} : ¬FailsAt run step rows [] e left := by
  rintro ⟨done, a, rest, _, split, _⟩
  cases done <;> cases split

theorem failsAt_cons_of_error (isLoop : RowLoop table loop run step) {rows left : OutboxRows}
    {first : α} {others : List α} {cause : Error} (refused : step rows first = .error cause) :
    FailsAt run step rows (first :: others) e left ↔ cause = e ∧ left = rows := by
  obtain ⟨zero, _, none⟩ := isLoop.nil
  constructor
  · rintro ⟨done, a, rest, c, split, before, fails⟩
    rcases done with _ | ⟨head, done⟩
    · cases split
      cases (none _).symm.trans before
      exact ⟨Except.error.inj (refused.symm.trans fails), rfl⟩
    · cases split
      obtain ⟨_, _, stops, _⟩ := isLoop.cons first done
      cases (stops refused).symm.trans before
  · rintro ⟨rfl, rfl⟩
    exact ⟨[], first, others, zero, rfl, none _, refused⟩

theorem failsAt_cons_of_ok (isLoop : RowLoop table loop run step) {rows next left : OutboxRows}
    {first : α} {others : List α} {b : β} (written : step rows first = .ok (b, next)) :
    FailsAt run step rows (first :: others) e left ↔ FailsAt run step next others e left := by
  obtain ⟨_, _, none⟩ := isLoop.nil
  constructor
  · rintro ⟨done, a, rest, c, split, before, fails⟩
    rcases done with _ | ⟨head, done⟩
    · cases split
      cases (none _).symm.trans before
      cases written.symm.trans fails
    · cases split
      obtain ⟨_, _, _, goes⟩ := isLoop.cons first done
      rw [goes written] at before
      obtain ⟨c, before⟩ := map_eq_ok before
      exact ⟨done, a, rest, c, rfl, before, fails⟩
  · rintro ⟨done, a, rest, c, rfl, before, fails⟩
    obtain ⟨g, _, _, goes⟩ := isLoop.cons first done
    refine ⟨first :: done, a, rest, g b c, rfl, ?_, fails⟩
    rw [goes written, before]
    rfl

/-- A loop fails at a first element, in a unit that holds all the writes before it. -/
theorem eq_error_iff (isLoop : RowLoop table loop run step) (usable : u.isAborted = false) :
    (loop list).run u = (.error e, v) ↔ ∃ rows,
      FailsAt run step (u.tables.outbox table) list e rows ∧
      v = { u with tables := u.tables.setOutbox table rows, isAborted := true } := by
  induction list generalizing u with
  | nil =>
    obtain ⟨_, ends, _⟩ := isLoop.nil
    rw [ends]
    exact ⟨nofun, fun ⟨_, fails, _⟩ => absurd fails not_failsAt_nil⟩
  | cons first others ih =>
    obtain ⟨g, isStep, _⟩ := isLoop.cons first others
    rw [isStep]
    rcases begun : step (u.tables.outbox table) first with cause | ⟨b, next⟩
    · have stopped : (Work.onOutbox table fun rows => step rows first).run u =
          (.error cause, { u with isAborted := true }) := by
        rw [Work.run_onOutbox _ _ usable, begun]
      simp only [Stateful.run_bind_error stopped, isLoop.failsAt_cons_of_error begun, and_assoc,
        exists_and_left, exists_eq_left, Tables.setOutbox_same]
      constructor
      · rintro ⟨⟩
        exact ⟨rfl, rfl⟩
      · rintro ⟨rfl, rfl⟩
        rfl
    · have went : (Work.onOutbox table fun rows => step rows first).run u =
          (.ok b, { u with tables := u.tables.setOutbox table next }) := by
        rw [Work.run_onOutbox _ _ usable, begun]
      have later := ih (u := { u with tables := u.tables.setOutbox table next }) usable
      simp only [Tables.outbox_setOutbox, Tables.setOutbox_setOutbox] at later
      simp only [Stateful.run_bind_ok went, isLoop.failsAt_cons_of_ok begun, ← later]
      exact Stateful.run_map_eq_error_iff

end RowLoop

namespace OutboxTable
variable (table : OutboxTable) (clock : Instant)

theorem settle_loop : RowLoop table (table.settle clock)
    (fun rows list => rows.applyTransitions list clock)
    fun rows t => rows.applyTransition t clock where
  nil := ⟨[], rfl, fun _ => rfl⟩
  cons t rest := by
    refine ⟨fun landed ids => if landed then t.id :: ids else ids, ?_, fun failed => ?_, fun done => ?_⟩
    · simp only [settle, map_eq_pure_bind]
    · rw [OutboxRows.applyTransitions, failed]
      rfl
    · rename_i rows landed next
      rw [OutboxRows.applyTransitions, done]
      change (next.applyTransitions rest clock).bind _ = _
      cases next.applyTransitions rest clock <;> rfl

theorem giveBack_loop : RowLoop table (table.giveBack clock)
    (fun rows list => rows.release list clock) fun rows entry => rows.giveBackOne entry clock where
  nil := ⟨0, rfl, fun _ => rfl⟩
  cons entry rest := by
    refine ⟨fun count more => count + more, ?_, fun failed => ?_, fun done => ?_⟩
    · simp only [giveBack, map_eq_pure_bind]
    · rw [OutboxRows.release, failed]
      rfl
    · rename_i rows count next
      rw [OutboxRows.release, done]
      change (next.release rest clock).bind _ = _
      cases next.release rest clock <;> rfl

theorem applyTransitions_part (transitions : List EntryTransition) :
    (table.applyTransitions transitions clock : Work (List Uuid)) = table.settle clock transitions := by
  cases transitions <;> rfl

theorem release_part (entries : List OutboxEntry) :
    (table.release entries clock : Work Nat) = table.giveBack clock entries := by
  cases entries <;> rfl

theorem fetchDue_eq_error {time : Instant} {limit : Int} {lease : Period} {u v : UnitOfWork}
    {e : Error} (run : (table.fetchDue time limit lease clock : Work _).run u = (.error e, v)) :
    v.effect = u.effect := by
  rcases Work.run_lift_bind_eq_error run with rfl | ⟨claimEnd, body⟩
  · rfl
  · rcases Stateful.run_bind_eq_error body with refused | ⟨entries, between, first, rest⟩
    · exact Work.onOutbox_eq_error refused
    · obtain ⟨_, rows, read, rfl⟩ := Work.onOutbox_eq_ok_iff.mp first
      have same : rows = u.tables.outbox table := by
        cases found : OutboxRows.firstDue (u.tables.outbox table) time limit clock <;>
          rw [found] at read <;> cases read
        rfl
      subst same
      rw [Tables.setOutbox_same] at rest
      split at rest
      · rcases Stateful.run_bind_eq_error rest with refused | ⟨_, _, _, returned⟩
        · exact Work.onOutbox_eq_error refused
        · cases returned
      · cases rest

theorem cleanup_eq_error {cutoff : Instant} {limit : Int} {u v : UnitOfWork} {e : Error}
    (run : (table.cleanup cutoff limit : Work CleanupStats).run u = (.error e, v)) :
    v.effect = u.effect := by
  rcases Stateful.run_bind_eq_error run with refused | ⟨total, between, first, rest⟩
  · exact Work.onOutbox_eq_error refused
  · obtain ⟨_, rows, read, rfl⟩ := Work.onOutbox_eq_ok_iff.mp first
    have same : rows = u.tables.outbox table := by
      cases found : OutboxRows.countExpired (u.tables.outbox table) cutoff <;>
        rw [found] at read <;> cases read
      rfl
    subst same
    rw [Tables.setOutbox_same] at rest
    split at rest
    · cases rest
    · rcases Stateful.run_bind_eq_error rest with refused | ⟨_, _, _, returned⟩
      · exact Work.onOutbox_eq_error refused
      · cases returned

theorem requeueFailed_eq_error {ids : List Uuid} {due : Instant} {u v : UnitOfWork} {e : Error}
    (run : (table.requeueFailed ids due clock : Work Nat).run u = (.error e, v)) :
    v.effect = u.effect := by
  unfold requeueFailed at run
  split at run
  · cases run
  · exact Work.onOutbox_eq_error run

end OutboxTable

namespace OutboxSettings
variable {settings : OutboxSettings} {now : Instant} {event : NewOutboxEvent} {u v : UnitOfWork}
  {e : Error}

/-- An event that is refused leaves nothing, unless it is there and cannot be read. -/
theorem emit_eq_error (run : (settings.emit now event).run u = (.error e, v)) :
    v.effect = u.effect ∨ ∃ entry, entry = settings.newEntry (Uuid.ofSerial u.serial) event now ∧
      entry.isReadable = false ∧ v.effect =
        (u.tables.setOutbox settings.table (u.tables.outbox settings.table ++ [entry]), u.hooks) := by
  rcases Bool.eq_false_or_eq_true u.isAborted with aborted | usable
  · rw [settings.run_emit_aborted now event aborted] at run
    cases run
    exact .inl rfl
  · rw [settings.run_emit now event usable] at run
    split at run
    · cases run
      exact .inl rfl
    · rename_i entry rows put
      obtain ⟨rfl, _, inserted⟩ := insertEntry_eq_ok_iff.mp put
      obtain ⟨_, _, _, rfl⟩ := OutboxRows.insert_eq_ok_iff.mp inserted
      split at run
      · cases run
      · rename_i unreadable
        cases run
        exact .inr ⟨_, rfl, Bool.eq_false_iff.mpr unreadable, rfl⟩

theorem emit_eq_error_of_readBack
    (same : event.resolvedPayload.readBack? = some event.resolvedPayload)
    (run : (settings.emit now event).run u = (.error e, v)) : v.effect = u.effect := by
  rcases emit_eq_error run with kept | ⟨_, rfl, unreadable, _⟩
  · exact kept
  · cases (isReadable_newEntry same).symm.trans unreadable

/-- The events before the one that is refused are there, and a sweep is to follow each. The refused
one is there as well if it cannot be read. -/
theorem emitAll_eq_error {events : List NewOutboxEvent}
    (run : (settings.emitAll now events).run u = (.error e, v)) :
    ∃ (new : List OutboxEntry) (unread : Option OutboxEntry), new.length < events.length ∧
      (∀ entry ∈ unread, entry.isReadable = false) ∧
      v.effect =
        (u.tables.setOutbox settings.table (u.tables.outbox settings.table ++ new ++ unread.toList),
          u.hooks ++ new.map fun _ => .schedule settings.trigger) := by
  induction events generalizing u with
  | nil => cases run
  | cons event rest ih =>
    rw [emitAll, List.mapM_cons] at run
    rcases Stateful.run_bind_eq_error run with refused | ⟨entry, between, first, others⟩
    · rcases emit_eq_error refused with kept | ⟨entry, _, unreadable, held⟩
      · refine ⟨[], none, Nat.zero_lt_succ _, ?_, kept.trans ?_⟩
        · rintro _ ⟨⟩
        · rw [Option.toList_none, List.append_nil, List.append_nil, Tables.setOutbox_same,
            List.map_nil, List.append_nil]
          rfl
      · refine ⟨[], some entry, Nat.zero_lt_succ _, ?_, held.trans ?_⟩
        · rintro _ ⟨⟩
          exact unreadable
        · rw [List.append_nil, Option.toList_some, List.map_nil, List.append_nil]
    · rcases Stateful.run_bind_eq_error others with refused | ⟨_, _, _, returned⟩
      · obtain ⟨new, unread, fewer, unreadable, left⟩ := ih refused
        obtain ⟨_, rows, inserted, rfl⟩ := emit_eq_ok first
        obtain ⟨_, _, _, rfl⟩ := OutboxRows.insert_eq_ok_iff.mp inserted
        refine ⟨entry :: new, unread, Nat.succ_lt_succ fewer, unreadable, left.trans ?_⟩
        simp only [Tables.setOutbox_setOutbox, Tables.outbox_setOutbox, List.append_assoc,
          List.cons_append, List.nil_append, List.map_cons]
      · cases returned

end OutboxSettings

namespace UploadSettings
variable {settings : UploadSettings} {now : Instant} {u v : UnitOfWork} {e : Error}

theorem moveFile_eq_error {id : Uuid} {sources : List FileStatus} {target : FileStatus}
    {message : Option String}
    (run : (moveFile now id sources target message).run u = (.error e, v)) : v = u := by
  rw [run_moveFile] at run
  split at run
  · cases run
    rfl
  · split at run <;> cases run

/-- A file is moved before its event is refused. -/
theorem transitionFile_eq_error {id : Uuid} {sources : List FileStatus} {target : FileStatus}
    {message eventType : Option String}
    (run : (settings.transitionFile now id sources target message eventType :
      Work UploadFile).run u = (.error e, v)) :
    v.effect = u.effect ∨ eventType.isSome = true ∧ ∃ file, u.tables.file? id = some file ∧
      v.effect = (u.tables.setFile (file.moved target message now), u.hooks) := by
  rcases Stateful.run_bind_eq_error run with failed | ⟨moved, between, done, rest⟩
  · rw [Work.transaction?_part] at failed
    rcases Stateful.run_bind_eq_error failed with refused | ⟨moved, between, first, rest⟩
    · cases moveFile_eq_error refused
      exact .inl rfl
    · rcases moveFile_eq_ok first with ⟨file, there, _, rfl, rfl⟩ | ⟨rfl, rfl, _⟩
      · cases eventType with
        | none => cases rest
        | some type =>
          rcases Stateful.run_bind_eq_error rest with refused | ⟨_, _, _, returned⟩
          · exact .inr ⟨rfl, file, there, OutboxSettings.emit_eq_error_of_readBack
              (UploadFile.readBack?_event _ type none) refused⟩
          · cases returned
      · cases rest
  · -- that no row was moved is told by a statement that only reads
    cases moved with
    | some file => cases rest
    | none =>
      obtain ⟨moved, last, first, others⟩ := Stateful.run_bind_eq_ok_iff.mp done
      rcases moveFile_eq_ok first with ⟨file, there, _, rfl, rfl⟩ | ⟨rfl, rfl, _⟩
      · dsimp only at others
        split at others
        · obtain ⟨_, _, _, returned⟩ := Stateful.run_bind_eq_ok_iff.mp others
          cases returned
        · cases others
      · cases others
        cases rest
        exact .inl rfl

/-- A file is there before its metadata turn out to be unreadable. -/
theorem insertFile_eq_error {file : UploadFile} (run : (insertFile file).run u = (.error e, v)) :
    v = u ∨ file.metadata.readBack? = none ∧
      v = { u with tables := { u.tables with files := u.tables.files ++ [inTable file] } } := by
  have put : ∀ {u : UnitOfWork}, (do
      Work.setTables { u.tables with files := u.tables.files ++ [inTable file] }
      if file.metadata.readBack?.isNone then throw (.database .unreadable)
      return inTable file : Work UploadFile).run u = (.error e, v) →
      file.metadata.readBack? = none ∧
        v = { u with tables := { u.tables with files := u.tables.files ++ [inTable file] } } := by
    intro u run
    rw [Work.run_setTables_bind] at run
    split at run
    · rename_i unreadable
      cases run
      exact ⟨Option.isNone_iff_eq_none.mp unreadable, rfl⟩
    · cases run
  rcases Work.run_lift_bind_eq_error run with rfl | ⟨_, rest⟩
  · exact .inl rfl
  · dsimp only at rest
    split at rest
    · cases rest
      exact .inl rfl
    · rw [Work.run_tables_bind] at rest
      split at rest
      · split at rest
        · cases rest
          exact .inl rfl
        · exact .inr (put rest)
      · exact .inr (put rest)

/-- A file is registered before its event is refused, or before its metadata cannot be read. -/
theorem createFile_eq_error {request : NewUploadFile}
    (run : (settings.createFile now request : Work UploadFile).run u = (.error e, v)) :
    v.effect = u.effect ∨ ∃ file : UploadFile,
      file = settings.newFile (Uuid.ofSerial u.serial) request now ∧
      (file.status = .failed ∨ file.metadata.readBack? = none) ∧
      v.effect = ({ u.tables with files := u.tables.files ++ [inTable file] }, u.hooks) := by
  rcases Work.run_lift_bind_eq_error run with rfl | ⟨_, rest⟩
  · exact .inl rfl
  · rw [Work.transaction_part, Work.run_freshId_bind] at rest
    rcases Stateful.run_bind_eq_error rest with refused | ⟨_, between, inserted, rest⟩
    · rcases insertFile_eq_error refused with rfl | ⟨unreadable, rfl⟩
      · exact .inl rfl
      · exact .inr ⟨_, rfl, .inr unreadable, rfl⟩
    · obtain ⟨_, _, _, _, rfl, rfl⟩ := insertFile_eq_ok inserted
      split at rest
      · rename_i failed
        rcases Stateful.run_bind_eq_error rest with refused | ⟨_, _, _, returned⟩
        · exact .inr ⟨_, rfl, .inl failed, OutboxSettings.emit_eq_error_of_readBack
            (UploadFile.readBack?_event _ fileFailed none) refused⟩
        · cases returned
      · cases rest

theorem advanceSession_eq_error {id : Uuid} {size : Int}
    (run : (advanceSession now id size).run u = (.error e, v)) : v = u := by
  rw [advanceSession, Work.run_tables_bind] at run
  split at run
  · dsimp only at run
    split at run <;> cases run
    rfl
  · cases run

theorem insertPart_eq_error {id : Uuid} {part : NewUploadPart}
    (run : (insertPart now id part).run u = (.error e, v)) : v.effect = u.effect := by
  rw [insertPart, Work.run_freshId_bind] at run
  rcases Work.run_lift_bind_eq_error run with rfl | ⟨_, rest⟩
  · rfl
  · rw [Work.run_tables_bind] at rest
    dsimp only at rest
    split at rest <;> cases rest
    rfl

/-- A part is there before its session refuses to count it. -/
theorem recordPart_eq_error {id : Uuid} {part : NewUploadPart}
    (run : (recordPart now id part : Work UploadPart).run u = (.error e, v)) :
    v.effect = u.effect ∨ ∃ recorded : UploadPart, recorded.sessionId = id ∧
      recorded.partNumber = part.partNumber ∧
      v.effect = ({ u.tables with parts := u.tables.parts ++ [recorded] }, u.hooks) := by
  rcases Work.run_lift_bind_eq_error run with rfl | ⟨_, checked⟩
  · exact .inl rfl
  rcases Stateful.run_bind_eq_error checked with refused | ⟨total, first, asked, numbered⟩
  · have same := partsOf_reads id u
    rw [show (partsOf id).run u = _ from refused] at same
    exact .inl (congrArg UnitOfWork.effect same)
  obtain ⟨rfl, _⟩ := partsOf_eq_ok asked
  rcases Work.run_lift_bind_eq_error numbered with rfl | ⟨_, body⟩
  · exact .inl rfl
  rcases Stateful.run_bind_eq_error body with failed | ⟨counted, last, done, rest⟩
  · rw [Work.transaction?_part] at failed
    rcases Stateful.run_bind_eq_error failed with refused | ⟨put, between, inserted, rest⟩
    · exact .inl (insertPart_eq_error refused)
    · obtain ⟨_, _, owner, number, _, _, rfl⟩ := insertPart_eq_ok inserted
      rcases Stateful.run_bind_eq_error rest with refused | ⟨_, _, _, returned⟩
      · cases advanceSession_eq_error refused
        exact .inr ⟨put, owner, number, rfl⟩
      · split at returned <;> cases returned
  · rw [Work.transaction?_part] at done
    obtain ⟨put, between, inserted, others⟩ := Stateful.run_bind_eq_ok_iff.mp done
    obtain ⟨isCounted, _, advanced, chosen⟩ := Stateful.run_bind_eq_ok_iff.mp others
    obtain ⟨_, _, owner, number, _, _, rfl⟩ := insertPart_eq_ok inserted
    rcases advanceSession_eq_ok advanced with ⟨rfl, _⟩ | ⟨rfl, rfl⟩
    · cases chosen
      cases rest
    · cases chosen
      cases rest
      exact .inr ⟨put, owner, number, rfl⟩

/-- A session is complete and its file stored before the event of that is refused. -/
theorem completeSession_eq_error {id : Uuid}
    (run : (settings.completeSession now id : Work UploadSession).run u = (.error e, v)) :
    v.effect = u.effect ∨ ∃ session file, u.tables.session? id = some session ∧
      u.tables.file? session.fileId = some file ∧
      v.effect = ((u.tables.setSession (session.concluded .complete now)).setFile
        (file.moved .stored none now), u.hooks) := by
  rw [completeSession, Work.transaction_part, Work.run_tables_bind] at run
  split at run
  · cases run
    exact .inl rfl
  · rename_i session found
    dsimp only at run
    split at run
    · cases run
      exact .inl rfl
    · split at run
      · cases run
        exact .inl rfl
      · rw [Work.run_setTables_bind] at run
        rcases Stateful.run_bind_eq_error run with refused | ⟨moved, last, first, rest⟩
        · rw [run_moveFile] at refused
          split at refused
          · rename_i null
            cases null
          · split at refused <;> cases refused
        · rcases moveFile_eq_ok first with ⟨file, there, _, rfl, rfl⟩ | ⟨rfl, rfl, _⟩
          · rcases Stateful.run_bind_eq_error rest with refused | ⟨_, _, _, returned⟩
            · exact .inr ⟨session, file, found, there, OutboxSettings.emit_eq_error_of_readBack
                (UploadFile.readBack?_event _ fileStored (some id)) refused⟩
            · cases returned
          · cases rest

/-- A batch has its new status before the event of that is refused. -/
theorem finalizeBatch_eq_error {id : Uuid}
    (run : (settings.finalizeBatch now id : Work BatchStatus).run u = (.error e, v)) :
    v.effect = u.effect ∨ ∃ batch, u.tables.batch? id = some batch ∧
      v.effect = (u.tables.setBatch (batch.moved (u.tables.derivedStatus id) now), u.hooks) := by
  cases found : u.tables.batch? id with
  | none =>
    rw [run_finalizeBatch_missing found] at run
    cases run
    exact .inl rfl
  | some batch =>
    cases Tables.id_of_batch? found
    by_cases same : u.tables.derivedStatus batch.id = batch.status
    · rw [run_finalizeBatch_same found same] at run
      cases run
    · rcases emitted : (settings.outbox.emit now (u.tables.finalization batch)).run { u with
        tables := u.tables.setBatch (batch.moved (u.tables.derivedStatus batch.id) now) } with ⟨result, w⟩
      rw [run_finalizeBatch_changed found same emitted] at run
      rcases result with cause | entry
      · cases congrArg Prod.snd run
        exact .inr ⟨batch, rfl, OutboxSettings.emit_eq_error_of_readBack
          (BatchStatus.readBack?_event _ _ _ _) emitted⟩
      · cases run

theorem createBatch_eq_error {createdBy : Option Uuid} {key : Option String}
    (run : (createBatch now createdBy key : Work UploadBatch).run u = (.error e, v)) :
    v.effect = u.effect := by
  rw [createBatch, Work.freshId_part, Work.run_freshId_bind, Work.statement_part, insertBatch] at run
  rcases Work.run_lift_bind_eq_error run with rfl | ⟨_, rest⟩
  · rfl
  · cases rest

theorem startBatch_eq_error {id : Uuid}
    (run : (startBatch now id : Work UploadBatch).run u = (.error e, v)) : v = u := by
  rw [run_startBatch] at run
  split at run <;> cases run
  rfl

theorem createSession_eq_error {token file : Uuid} {total : Int} {chunk : Option Int}
    (run : (createSession now token file total chunk : Work UploadSession).run u = (.error e, v)) :
    v.effect = u.effect := by
  rcases Work.run_lift_bind_eq_error run with rfl | ⟨_, rest⟩
  · rfl
  · rw [Work.freshId_part, Work.run_freshId_bind, Work.statement_part, insertSession,
      Work.run_tables_bind] at rest
    dsimp only at rest
    split at rest
    · cases rest
      rfl
    · split at rest <;> cases rest
      rfl

theorem terminateSession_eq_error {id : Uuid} {target : SessionStatus}
    (run : (terminateSession now id target : Work UploadSession).run u = (.error e, v)) : v = u := by
  rcases Stateful.run_bind_eq_error run with refused | ⟨ended, between, done, rest⟩
  · rw [Work.statement_part, concludeSession, Work.run_tables_bind] at refused
    split at refused <;> cases refused
  · rw [Work.statement_part, concludeSession, Work.run_tables_bind] at done
    split at done
    · cases done
      cases rest
    · cases done
      cases rest
      rfl

theorem cleanupExpiredFiles_eq_error {cutoff : Instant} {limit : Int}
    (run : (cleanupExpiredFiles cutoff limit : Work CleanupStats).run u = (.error e, v)) : v = u := by
  rw [cleanupExpiredFiles, Work.transaction_part] at run
  dsimp only at run
  split at run
  · cases run
    rfl
  · rw [Work.run_tables_bind] at run
    split at run
    · cases run
    · split at run <;> cases run
      rfl

end UploadSettings

/-- The file that a call is to move and announce, with its new status and message. -/
def Call.announcing? : Call → Option (Uuid × FileStatus × Option String)
  | .markFileStored id => some (id, .stored, none)
  | .markFileProcessed id => some (id, .processed, none)
  | .markFileFailed id message => some (id, .failed, some message)
  | _ => none

/-- What the unit of a call on the store `s` holds when the call fails, the tables and the hooks. -/
inductive Transaction.Unfinished (x : Transaction) (s : Store) : Tables × List Hook → Prop
  | nothing : Unfinished x s (s.tables, [])
  | events (new : List OutboxEntry) (unread : Option OutboxEntry) : new.length < x.call.events.length →
      (∀ entry ∈ unread, entry.isReadable = false) →
      Unfinished x s (s.tables.setOutbox x.db.outbox.table
          (s.rows x.db.outbox.table ++ new ++ unread.toList),
        new.map fun _ => .schedule x.db.outbox.trigger)
  | settled {transitions done rest : List EntryTransition} {t : EntryTransition} {ids : List Uuid}
      {rows : OutboxRows} : x.call = .applyTransitions transitions → transitions = done ++ t :: rest →
      (s.rows x.db.outbox.table).applyTransitions done x.now = .ok (ids, rows) →
      Unfinished x s (s.tables.setOutbox x.db.outbox.table rows, [])
  | returned {entries done rest : List OutboxEntry} {entry : OutboxEntry} {count : Nat}
      {rows : OutboxRows} : x.call = .release entries → entries = done ++ entry :: rest →
      (s.rows x.db.outbox.table).release done x.now = .ok (count, rows) →
      Unfinished x s (s.tables.setOutbox x.db.outbox.table rows, [])
  | batch {id : Uuid} {batch : UploadBatch} : x.call = .finalizeBatch id →
      s.tables.batch? id = some batch →
      Unfinished x s (s.tables.setBatch (batch.moved (s.tables.derivedStatus id) x.now), [])
  | registered {request : NewUploadFile} {file : UploadFile} : x.call = .createFile request →
      file = x.db.uploads.newFile (Uuid.ofSerial s.serial) request x.now →
      file.status = .failed ∨ file.metadata.readBack? = none →
      Unfinished x s ({ s.tables with files := s.tables.files ++ [UploadSettings.inTable file] }, [])
  | file {id : Uuid} {target : FileStatus} {message : Option String} {file : UploadFile} :
      x.call.announcing? = some (id, target, message) → s.tables.file? id = some file →
      Unfinished x s (s.tables.setFile (file.moved target message x.now), [])
  | part {session : Uuid} {part : NewUploadPart} {recorded : UploadPart} :
      x.call = .recordPart session part → recorded.sessionId = session →
      recorded.partNumber = part.partNumber →
      Unfinished x s ({ s.tables with parts := s.tables.parts ++ [recorded] }, [])
  | completed {id : Uuid} {session : UploadSession} {file : UploadFile} :
      x.call = .completeSession id → s.tables.session? id = some session →
      s.tables.file? session.fileId = some file →
      Unfinished x s ((s.tables.setSession (session.concluded .complete x.now)).setFile
        (file.moved .stored none x.now), [])

namespace Store
variable {s : Store} {u : UnitOfWork} {e : Error}

theorem unfinished_of_transitionFile {x : Transaction} {id : Uuid} {sources : List FileStatus}
    {target : FileStatus} {message eventType : Option String}
    (announced : eventType.isSome = true → x.call.announcing? = some (id, target, message))
    (run : (x.db.uploads.transitionFile x.now id sources target message eventType :
      Work UploadFile).run s.begin = (.error e, u)) : x.Unfinished s u.effect := by
  rcases UploadSettings.transitionFile_eq_error run with kept | ⟨some, file, there, held⟩
  · exact kept ▸ .nothing
  · exact held ▸ .file (announced some) there

/-- A call that fails leaves in its unit what one of the cases says, and nothing else. -/
theorem unfinished_of_error {x : Transaction}
    (run : (x.call.run x.db x.now : Work Reply).run s.begin = (.error e, u)) :
    x.Unfinished s u.effect := by
  obtain ⟨db, now, call⟩ := x
  cases call with
  | emit event =>
    rcases OutboxSettings.emit_eq_error (Stateful.run_map_eq_error run) with
      kept | ⟨entry, _, unreadable, held⟩
    · exact kept ▸ .nothing
    · have left : u.effect = (s.tables.setOutbox db.outbox.table
          (s.rows db.outbox.table ++ [] ++ (some entry).toList), []) := by
        rw [List.append_nil]
        exact held
      refine left ▸ .events [] (some entry) (Nat.zero_lt_succ _) ?_
      rintro _ ⟨⟩
      exact unreadable
  | emitAll events =>
    obtain ⟨new, unread, fewer, unreadable, held⟩ :=
      OutboxSettings.emitAll_eq_error (Stateful.run_map_eq_error run)
    exact held ▸ .events new unread fewer unreadable
  | fetchDue time limit lease =>
    exact db.outbox.table.fetchDue_eq_error now (Stateful.run_map_eq_error run) ▸ .nothing
  | release entries =>
    have body := Stateful.run_map_eq_error run
    rw [OutboxTable.release_part] at body
    obtain ⟨rows, ⟨done, entry, rest, count, split, before, _⟩, rfl⟩ :=
      ((db.outbox.table.giveBack_loop now).eq_error_iff rfl).mp body
    exact .returned rfl split before
  | applyTransitions transitions =>
    have body := Stateful.run_map_eq_error run
    rw [OutboxTable.applyTransitions_part] at body
    obtain ⟨rows, ⟨done, t, rest, ids, split, before, _⟩, rfl⟩ :=
      ((db.outbox.table.settle_loop now).eq_error_iff rfl).mp body
    exact .settled rfl split before
  | cleanup cutoff limit =>
    exact db.outbox.table.cleanup_eq_error (Stateful.run_map_eq_error run) ▸ .nothing
  | requeueFailed ids due =>
    exact db.outbox.table.requeueFailed_eq_error now (Stateful.run_map_eq_error run) ▸ .nothing
  | createEndpoint request =>
    have created := Stateful.run_map_eq_error run
    rw [registerEndpoint, Work.freshId_part, Work.run_freshId_bind, Work.statement_part] at created
    exact Work.onEndpoints_eq_error created ▸ .nothing
  | updateEndpoint | deleteEndpoint =>
    exact Work.onEndpoints_eq_error (Stateful.run_map_eq_error run) ▸ .nothing
  | createBatch createdBy key =>
    exact UploadSettings.createBatch_eq_error (Stateful.run_map_eq_error run) ▸ .nothing
  | startBatch id =>
    exact UploadSettings.startBatch_eq_error (Stateful.run_map_eq_error run) ▸ .nothing
  | finalizeBatch id =>
    rcases UploadSettings.finalizeBatch_eq_error (Stateful.run_map_eq_error run) with
      kept | ⟨batch, there, held⟩
    · exact kept ▸ .nothing
    · exact held ▸ .batch rfl there
  | createFile request =>
    rcases UploadSettings.createFile_eq_error (Stateful.run_map_eq_error run) with
      kept | ⟨file, isNew, why, held⟩
    · exact kept ▸ .nothing
    · exact held ▸ .registered rfl isNew why
  | markFileStored | markFileProcessed | markFileFailed =>
    exact unfinished_of_transitionFile (fun _ => rfl) (Stateful.run_map_eq_error run)
  | markFileDeleted id =>
    refine unfinished_of_transitionFile ?_ (Stateful.run_map_eq_error run)
    intro announced
    cases announced
  | createSession token file total chunk =>
    exact UploadSettings.createSession_eq_error (Stateful.run_map_eq_error run) ▸ .nothing
  | recordPart session part =>
    rcases UploadSettings.recordPart_eq_error (Stateful.run_map_eq_error run) with
      kept | ⟨recorded, owner, number, held⟩
    · exact kept ▸ .nothing
    · exact held ▸ .part rfl owner number
  | completeSession id =>
    rcases UploadSettings.completeSession_eq_error (Stateful.run_map_eq_error run) with
      kept | ⟨session, file, there, its, held⟩
    · exact kept ▸ .nothing
    · exact held ▸ .completed rfl there its
  | abortSession | failSession =>
    exact UploadSettings.terminateSession_eq_error (Stateful.run_map_eq_error run) ▸ .nothing
  | cleanupFiles cutoff limit =>
    exact UploadSettings.cleanupExpiredFiles_eq_error (Stateful.run_map_eq_error run) ▸ .nothing

end Store

end OutboxRelay
