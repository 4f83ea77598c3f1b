import OutboxRelay.Proofs.UnfinishedWork

namespace OutboxRelay

namespace Store
variable {s : Store} {x : Transaction} {e : Error}

theorem perform_eq_error_iff : (s.perform x).1 = .error e ↔
    ∃ u, (x.call.run x.db x.now : Work Reply).run s.begin = (.error e, u) := by
  rcases run : (x.call.run x.db x.now : Work Reply).run s.begin with ⟨cause | reply, u⟩
  · rw [perform_of_error run]
    constructor
    · rintro ⟨⟩
      exact ⟨u, rfl⟩
    · rintro ⟨_, ⟨⟩⟩
      rfl
  · rw [perform_of_ok run]
    constructor
    · intro failed
      cases failed
    · rintro ⟨_, failed⟩
      cases failed

/-- A call fails if what it runs does, whatever it makes of the result. -/
theorem perform_eq_error_iff_of_run {α : Type} {work : Work α} {g : α → Reply}
    {result : Except Error α} {u : UnitOfWork} (isWork : x.call.run x.db x.now = g <$> work)
    (run : work.run s.begin = (result, u)) : (s.perform x).1 = .error e ↔ result = .error e := by
  cases result with
  | error cause =>
    rw [perform_map_error isWork run]
    simp only [Except.error.injEq]
  | ok a =>
    rw [perform_map_ok isWork run]
    simp only [reduceCtorEq]

/-- A call that is a loop over rows fails at a first element, after the writes for those before it. -/
theorem perform_eq_error_iff_of_loop {α β γ : Type} (s : Store) (x : Transaction)
    {loop : List α → Work γ}
    {operation : OutboxRows → List α → Except Error (γ × OutboxRows)}
    {step : OutboxRows → α → Except Error (β × OutboxRows)} {list : List α} {g : γ → Reply}
    (isLoop : RowLoop x.db.outbox.table loop operation step)
    (isWork : x.call.run x.db x.now = g <$> loop list) :
    (s.perform x).1 = .error e ↔ ∃ done a rest c rows, list = done ++ a :: rest ∧
      operation (s.rows x.db.outbox.table) done = .ok (c, rows) ∧ step rows a = .error e := by
  rcases run : (loop list).run s.begin with ⟨result, u⟩
  refine (perform_eq_error_iff_of_run isWork run).trans ⟨?_, ?_⟩
  · rintro rfl
    obtain ⟨rows, ⟨done, a, rest, c, split, before, refused⟩, _⟩ :=
      (isLoop.eq_error_iff rfl).mp run
    exact ⟨done, a, rest, c, rows, split, before, refused⟩
  · rintro ⟨done, a, rest, c, rows, split, before, refused⟩
    have failed := (isLoop.eq_error_iff (u := s.begin) rfl).mpr
      ⟨rows, ⟨done, a, rest, c, split, before, refused⟩, rfl⟩
    exact (Prod.mk.inj (run.symm.trans failed)).1

theorem emit_eq_error_iff {settings : OutboxSettings} {now : Instant} {event : NewOutboxEvent}
    {u v : UnitOfWork} {result : Except Error OutboxEntry} (usable : u.isAborted = false)
    (same : event.resolvedPayload.readBack? = some event.resolvedPayload)
    (run : (settings.emit now event).run u = (result, v)) : result = .error e ↔
      OutboxSettings.insertEntry event (settings.newEntry (Uuid.ofSerial u.serial) event now)
        (u.tables.outbox settings.table) = .error e := by
  rw [settings.run_emit now event usable] at run
  split at run
  · rename_i cause put
    cases run
    rw [put]
    simp only [Except.error.injEq]
  · rename_i entry rows put
    obtain ⟨rfl, _⟩ := OutboxSettings.insertEntry_eq_ok_iff.mp put
    rw [if_pos (OutboxSettings.isReadable_newEntry same)] at run
    cases run
    rw [put]
    exact ⟨nofun, nofun⟩

theorem absorbed_eq_error_iff {α : Type} {result : Except Error OutboxEntry} {a : α} :
    (UploadSettings.absorbed result).map (fun _ => a) = .error e ↔
      result = .error e ∧ e.isDuplicateEvent = false := by
  unfold UploadSettings.absorbed
  rcases result with cause | entry
  · cases duplicate : cause.isDuplicateEvent <;> simp [Except.map] <;> grind
  · exact ⟨nofun, nofun⟩

/-- The event that finalization puts into the outbox of the handle is refused. -/
def RefusesFinalization (s : Store) (x : Transaction) (batch : UploadBatch) (e : Error) : Prop :=
  let settings := x.db.uploads.outbox
  let event := s.tables.finalization batch
  OutboxSettings.insertEntry event (settings.newEntry (Uuid.ofSerial s.serial) event x.now)
    (s.rows settings.table) = .error e

/-- A batch that cannot be finalized is not there, or gets another status whose event is refused, and
not because it is there already. -/
theorem perform_finalizeBatch_eq_error_iff {id : Uuid} (isCall : x.call = .finalizeBatch id) :
    (s.perform x).1 = .error e ↔
      s.tables.batch? id = none ∧ e = .notFound ("upload_batch " ++ id.text) ∨
      ∃ batch, s.tables.batch? id = some batch ∧ s.tables.derivedStatus id ≠ batch.status ∧
        e.isDuplicateEvent = false ∧ s.RefusesFinalization x batch e := by
  obtain ⟨db, now, call⟩ := x
  cases isCall
  have perform : ∀ {result : Except Error BatchStatus} {u : UnitOfWork},
      (db.uploads.finalizeBatch now id : Work BatchStatus).run s.begin = (result, u) →
      ((s.perform ⟨db, now, .finalizeBatch id⟩).1 = .error e ↔ result = .error e) :=
    perform_eq_error_iff_of_run rfl
  cases found : s.tables.batch? id with
  | none =>
    refine (perform (UploadSettings.run_finalizeBatch_missing found)).trans ⟨?_, ?_⟩
    · rintro ⟨⟩
      exact .inl ⟨rfl, rfl⟩
    · rintro (⟨_, rfl⟩ | ⟨_, there, _⟩)
      · rfl
      · cases there
  | some batch =>
    cases Tables.id_of_batch? found
    by_cases same : s.tables.derivedStatus batch.id = batch.status
    · refine (perform (UploadSettings.run_finalizeBatch_same (u := s.begin) found same)).trans ?_
      simp only [reduceCtorEq, false_iff]
      rintro (⟨none, _⟩ | ⟨other, there, changed, _⟩)
      · cases none
      · cases there
        exact absurd same changed
    · rcases emitted : (db.uploads.outbox.emit now (s.tables.finalization batch)).run { s.begin with
        tables := s.tables.setBatch (batch.moved (s.tables.derivedStatus batch.id) now) } with ⟨result, v⟩
      have run := UploadSettings.run_finalizeBatch_changed (u := s.begin) found same emitted
      have refused : result = .error e ↔
          s.RefusesFinalization ⟨db, now, .finalizeBatch batch.id⟩ batch e := by
        have same : (s.tables.finalization batch).resolvedPayload.readBack? = _ :=
          BatchStatus.readBack?_event _ _ _ _
        refine (emit_eq_error_iff rfl same emitted).trans (iff_of_eq (congrArg (· = Except.error e) ?_))
        exact congrArg (OutboxSettings.insertEntry _ _) (Tables.outbox_congr rfl rfl _)
      refine (perform run).trans (absorbed_eq_error_iff.trans ⟨?_, ?_⟩)
      · rintro ⟨failed, other⟩
        exact .inr ⟨batch, rfl, same, other, refused.mp failed⟩
      · rintro (⟨none, _⟩ | ⟨other, there, _, duplicate, fails⟩)
        · cases none
        · cases there
          exact ⟨refused.mpr fails, duplicate⟩

/-- How a call fails: it takes back whatever it has written by then. -/
structure FailsCleanly (s : Store) (x : Transaction) : Prop where
  /-- Its statements and transactions come to one unit, which is kept or dropped as a whole. -/
  oneUnit : s.perform x = s.atomic (x.call.run x.db x.now)
  unchanged : ∀ e, (s.perform x).1 = .error e →
    (s.perform x).2.tables = s.tables ∧ (s.perform x).2.toJournal = s.toJournal
  /-- All that there can be to take back. -/
  unfinished : ∀ e, (s.perform x).1 = .error e →
    ∃ u, (x.call.run x.db x.now : Work Reply).run s.begin = (.error e, u) ∧ x.Unfinished s u.effect
  /-- The transitions before the one that is refused would have gone through. -/
  settling : ∀ transitions e, x.call = .applyTransitions transitions →
    ((s.perform x).1 = .error e ↔ ∃ done t rest ids rows, transitions = done ++ t :: rest ∧
      (s.rows x.db.outbox.table).applyTransitions done x.now = .ok (ids, rows) ∧
      rows.applyTransition t x.now = .error e)
  releasing : ∀ entries e, x.call = .release entries →
    ((s.perform x).1 = .error e ↔ ∃ done entry rest count rows, entries = done ++ entry :: rest ∧
      (s.rows x.db.outbox.table).release done x.now = .ok (count, rows) ∧
      rows.giveBackOne entry x.now = .error e)
  /-- A duplicate event is no failure; any other refusal takes the status back as well. -/
  finalizing : ∀ id e, x.call = .finalizeBatch id →
    ((s.perform x).1 = .error e ↔
      s.tables.batch? id = none ∧ e = .notFound ("upload_batch " ++ id.text) ∨
      ∃ batch, s.tables.batch? id = some batch ∧ s.tables.derivedStatus id ≠ batch.status ∧
        e.isDuplicateEvent = false ∧ s.RefusesFinalization x batch e)

/-- A call that fails changes nothing, whichever call it is and whatever store it finds. -/
theorem failed_calls (s : Store) (x : Transaction) : s.FailsCleanly x where
  oneUnit := s.perform_eq x
  unchanged e failed := by
    obtain ⟨u, run⟩ := perform_eq_error_iff.mp failed
    rw [perform_of_error run]
    exact ⟨rfl, rfl⟩
  unfinished e failed := by
    obtain ⟨u, run⟩ := perform_eq_error_iff.mp failed
    exact ⟨u, run, unfinished_of_error run⟩
  settling transitions e isCall := by
    obtain ⟨db, now, call⟩ := x
    cases isCall
    exact s.perform_eq_error_iff_of_loop ⟨db, now, _⟩ (db.outbox.table.settle_loop now)
      (congrArg (Reply.ids <$> ·) (db.outbox.table.applyTransitions_part now transitions))
  releasing entries e isCall := by
    obtain ⟨db, now, call⟩ := x
    cases isCall
    exact s.perform_eq_error_iff_of_loop ⟨db, now, _⟩ (db.outbox.table.giveBack_loop now)
      (congrArg (Reply.count <$> ·) (db.outbox.table.release_part now entries))
  finalizing id e isCall := perform_finalizeBatch_eq_error_iff isCall

/-- A part for a session that is over: by the time it is refused it is there, and afterwards it is
not. -/
theorem failed_calls_uncounted_part :
    let call : Call → Transaction := fun call => ⟨{}, ⟨1767225600, 0⟩, call⟩
    let session := Uuid.ofSerial 1
    let s := ({} : Store).after [call (.createFile { filename := "a.txt", sizeBytes := 20 }),
      call (.createSession (Uuid.ofSerial 7) (Uuid.ofSerial 0) 20 (some 10)),
      call (.abortSession session)]
    let x := call (.recordPart session { partNumber := 1, offsetBytes := 0, sizeBytes := 10 })
    let e : Error := .invalidTransition "upload_session" session "init or in_progress"
    (s.perform x).1 = .error e ∧ (s.perform x).2.tables = s.tables ∧
      (s.perform x).2.ran = s.ran ∧
      ∃ u, (x.call.run x.db x.now : Work Reply).run s.begin = (.error e, u) ∧
        u.tables.parts.map (·.partNumber) = [1] := by
  intro call session s x e
  have failed : (s.perform x).1 = .error e := by
    have refused : (s.perform x).1.map (fun _ => ()) = .error e := by decide +kernel
    generalize (s.perform x).1 = result at refused
    cases result with
    | error cause => rw [Except.error.inj refused]
    | ok reply => cases refused
  have held : ((x.call.run x.db x.now : Work Reply).run s.begin).2.tables.parts.map (·.partNumber) =
      [1] := by decide +kernel
  have clean := failed_calls s x
  obtain ⟨tables, journal⟩ := clean.unchanged e failed
  obtain ⟨u, run, _⟩ := clean.unfinished e failed
  rw [run] at held
  exact ⟨failed, tables, congrArg Journal.ran journal, u, run, held⟩

end Store

end OutboxRelay
