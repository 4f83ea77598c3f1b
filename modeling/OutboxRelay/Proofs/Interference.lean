import OutboxRelay.Proofs.SweepOutcome

namespace OutboxRelay

namespace Site
variable {τ α β : Type} {table : OutboxTable}

/-- The step leaves a table that fulfils its constraints if it finds one. Otherwise it may do
whatever transactions can. -/
def Respects (table : OutboxTable) (w : Sweep (Site τ) α) : Prop :=
  ∀ s : Site τ, (s.store.rows table).Consistent → ((w.run s).2.store.rows table).Consistent

theorem respects_pure (a : α) : Respects table (pure a : Sweep (Site τ) α) :=
  fun _ consistent => consistent

theorem respects_throw (e : Error) : Respects table (throw e : Sweep (Site τ) α) :=
  fun _ consistent => consistent

theorem Respects.bind {w : Sweep (Site τ) α} {f : α → Sweep (Site τ) β} (first : Respects table w)
    (rest : ∀ a, Respects table (f a)) : Respects table (w >>= f) := by
  intro s consistent
  have between := first s consistent
  rw [Stateful.run_bind]
  rcases run : w.run s with ⟨_ | a, t⟩ <;> rw [run] at between
  · exact between
  · exact rest a t between

theorem WritesRows.eq_ok {call : Sweep (Site τ) α}
    {operation : OutboxRows → Instant → Except Error (α × OutboxRows)}
    (writes : WritesRows call table operation) {s t : Site τ} {a : α}
    (run : call.run s = (.ok a, t)) :
    ∃ rows, operation (s.store.rows table) s.clock = .ok (a, rows) ∧ t = s.withRows table rows := by
  rcases result : operation (s.store.rows table) s.clock with e | ⟨b, rows⟩
  · rw [writes.error result] at run
    cases run
  · rw [writes.ok result] at run
    cases run
    exact ⟨rows, rfl, rfl⟩

theorem Respects.of_run {w : Sweep (Site τ) α} (respects : Respects table w) {s t : Site τ}
    {result : Except Error α} (run : w.run s = (result, t))
    (consistent : (s.store.rows table).Consistent) : (t.store.rows table).Consistent := by
  have left := respects s consistent
  rwa [run] at left

end Site

/-- What a sweep over an outbox table meets besides that table: clocks, endpoints, subscribers and
chance. Before any of them answers, other transactions may have changed the store, the rows that the
sweep has fetched included. -/
structure Surroundings (τ : Type) (table : OutboxTable) where
  now : Sweep (Site τ) Instant
  stopwatch : Sweep (Site τ) Span
  listActive : Sweep (Site τ) (List WebhookEndpoint)
  deliver : WebhookEndpoint → OutboxEntry → Sweep (Site τ) DeliveryResult
  draw : Sweep (Site τ) (Int → Int)
  now_respects : Site.Respects table now
  stopwatch_respects : Site.Respects table stopwatch
  listActive_respects : Site.Respects table listActive
  deliver_respects : ∀ endpoint entry, Site.Respects table (deliver endpoint entry)
  draw_respects : Site.Respects table draw

namespace Surroundings
variable {τ : Type} {table : OutboxTable} (around : Surroundings τ table)

/-- The services of a sweep there. It reads and writes its table as ever. -/
def services : DeliveryServices (Site τ) :=
  { Site.deliveryServices table ⟨0⟩ (fun bound => bound) around.deliver with
    now := around.now
    stopwatch := around.stopwatch
    listActive := around.listActive
    draw := around.draw }

theorem failures_respects (entry : OutboxEntry) (endpoints : List WebhookEndpoint) :
    Site.Respects table (DeliverySweep.failures around.services entry endpoints) := by
  induction endpoints with
  | nil => exact Site.respects_pure []
  | cons endpoint rest ih =>
    exact (around.deliver_respects endpoint entry).bind fun result => ih.bind fun more =>
      Site.respects_pure _

theorem deliverEntry_respects (endpoints : List WebhookEndpoint) (entry : OutboxEntry) :
    Site.Respects table (DeliverySweep.deliverEntry around.services endpoints entry) :=
  (around.failures_respects entry _).bind fun _ => Site.respects_pure _

theorem attempt_respects (sweep : DeliverySweep) (endpoints : List WebhookEndpoint)
    (entries : List OutboxEntry) :
    Site.Respects table (sweep.attempt around.services endpoints entries) := by
  induction entries with
  | nil => exact Site.respects_pure []
  | cons entry rest ih =>
    refine around.stopwatch_respects.bind fun elapsed => ?_
    split
    · exact Site.respects_pure []
    · refine (around.deliverEntry_respects endpoints entry).bind fun error =>
        around.now_respects.bind fun now => around.draw_respects.bind fun draw => ?_
      split
      · exact Site.respects_throw _
      · exact ih.bind fun more => Site.respects_pure _

/-- Surroundings in which others make calls while a subscriber has the sweep wait for its answer. -/
def busy (table : OutboxTable) (calls : WebhookEndpoint → OutboxEntry → List Transaction)
    (answer : WebhookEndpoint → OutboxEntry → DeliveryResult) : Surroundings τ table where
  now := return (← get).clock
  stopwatch := return (← get).uptime
  listActive := return EndpointRows.listActive (← get).store.tables.endpoints
  deliver endpoint entry := fun s =>
    (.ok (answer endpoint entry), { s with store := s.store.after (calls endpoint entry) })
  draw := return fun bound => bound
  now_respects := fun _ consistent => consistent
  stopwatch_respects := fun _ consistent => consistent
  listActive_respects := fun _ consistent => consistent
  deliver_respects endpoint entry := fun _ consistent => consistent.after (calls endpoint entry)
  draw_respects := fun _ consistent => consistent

end Surroundings

/-- A sweep that has begun in `s` has fetched entries and come to transitions, and is about to write
them in `t`. Without entries it attempts nothing. -/
inductive DeliverySweep.Reaches {σ : Type} (sweep : DeliverySweep) (services : DeliveryServices σ)
    (s : σ) : List OutboxEntry → List EntryTransition → σ → Prop
  | idle {lease now begun t} : sweep.lease = .ok lease → services.now.run s = (.ok now, begun) →
      (services.fetchDue now sweep.config.batchSize lease).run begun = (.ok [], t) →
      Reaches sweep services s [] [] t
  | worked {lease now begun fetched claimed endpoints looked transitions t} :
      sweep.lease = .ok lease → services.now.run s = (.ok now, begun) →
      (services.fetchDue now sweep.config.batchSize lease).run begun = (.ok fetched, claimed) →
      services.listActive.run claimed = (.ok endpoints, looked) →
      (sweep.attempt services endpoints fetched).run looked = (.ok transitions, t) →
      Reaches sweep services s fetched transitions t

theorem DeliverySweep.endpointsFor_eq_ok {σ : Type} {services : DeliveryServices σ}
    {entries : List OutboxEntry} {endpoints : List WebhookEndpoint} {s t : σ}
    (run : (endpointsFor services entries).run s = (.ok endpoints, t)) :
    services.listActive.run s = (.ok endpoints, t) := by
  change endpointsFor services entries s = _ at run
  unfold endpointsFor at run
  rcases looked : services.listActive.run s with ⟨e | found, left⟩ <;> rw [looked] at run
  · cases run
  · exact run

/-- The rows once entries have been given back, as far as that is possible. -/
def OutboxRows.givenBack (rows : OutboxRows) (entries : List OutboxEntry) (clock : Instant) :
    OutboxRows :=
  match rows.release entries clock with
  | .error _ => rows
  | .ok (_, rows) => rows

namespace Surroundings
variable {τ : Type} {table : OutboxTable} {around : Surroundings τ table} {sweep : DeliverySweep}
  {s t : Site τ} {fetched : List OutboxEntry} {transitions : List EntryTransition}

/-- The entries that a fetch returns differ, and it leaves the table as it should be. -/
theorem of_fetched {now : Instant} {limit : Int} {lease : Period}
    (consistent : (s.store.rows table).Consistent)
    (run : (around.services.fetchDue now limit lease).run s = (.ok fetched, t)) :
    (fetched.Pairwise fun a b => a.id ≠ b.id) ∧ (t.store.rows table).Consistent := by
  obtain ⟨rows, claims, rfl⟩ := (Site.fetchDue_writes table _ _ _).eq_ok run
  rw [Site.rows_withRows]
  exact ⟨consistent.fetched_distinct claims, consistent.fetchDue claims⟩

/-- What a sweep is about to write are attempts at the first of the different entries that it has
fetched, and the table is as it should be then. -/
theorem of_reaches (consistent : (s.store.rows table).Consistent)
    (reaches : sweep.Reaches around.services s fetched transitions t) :
    (∃ attempted deferred, fetched = attempted ++ deferred ∧
        List.Forall₂ OutboxEntry.Attempted attempted transitions) ∧
      (fetched.Pairwise fun a b => a.id ≠ b.id) ∧ (t.store.rows table).Consistent := by
  cases reaches with
  | idle _ read fetches =>
    have begun := around.now_respects.of_run read consistent
    exact ⟨⟨[], [], rfl, .nil⟩, of_fetched begun fetches⟩
  | worked _ read fetches looks attempts =>
    have begun := around.now_respects.of_run read consistent
    obtain ⟨distinct, claimed⟩ := of_fetched begun fetches
    have looked := around.listActive_respects.of_run looks claimed
    exact ⟨DeliverySweep.attempt_attempted attempts, distinct,
      (around.attempt_respects sweep _ _).of_run attempts looked⟩

theorem giveBack_run (entries : List OutboxEntry) (s : Site τ) :
    (DeliverySweep.giveBack around.services entries).run s =
      (.ok (), s.withRows table ((s.store.rows table).givenBack entries s.clock)) := by
  cases entries with
  | nil => exact congrArg (Prod.mk _) (s.withRows_rows table).symm
  | cons entry rest =>
    change (match (around.services.release (entry :: rest)).run s with
      | (_, s) => ((.ok (), s) : Except Error Unit × Site τ)) = _
    cases released : (s.store.rows table).release (entry :: rest) s.clock with
    | error e =>
      have kept : (around.services.release (entry :: rest)).run s = (.error e, s) :=
        (Site.release_writes table _).error released
      rw [kept, OutboxRows.givenBack, released, s.withRows_rows]
    | ok result =>
      have gave : (around.services.release (entry :: rest)).run s =
          (.ok result.1, s.withRows table result.2) := (Site.release_writes table _).ok released
      rw [gave, OutboxRows.givenBack, released]

/-- What a sweep does once it has made its attempts: it writes what came of them, gives the other
entries back and looks what remains. -/
theorem run_eq_ok {stats : DeliveryStats}
    (ran : (sweep.run around.services).run s = (.ok stats, t)) :
    ∃ fetched transitions left ids rows,
      sweep.Reaches around.services s fetched transitions left ∧
      (left.store.rows table).applyTransitions transitions left.clock = .ok (ids, rows) ∧
      t = left.withRows table (rows.givenBack (fetched.drop transitions.length) left.clock) ∧
      stats = DeliverySweep.stats transitions ids (fetched.drop transitions.length).length
        (OutboxRows.pendingCount (t.store.rows table)) := by
  obtain ⟨lease, start, spans, ran⟩ := Stateful.run_bind_eq_ok_iff.mp ran
  obtain ⟨now, begun, read, ran⟩ := Stateful.run_bind_eq_ok_iff.mp ran
  obtain ⟨fetched, claimed, fetches, ran⟩ := Stateful.run_bind_eq_ok_iff.mp ran
  rw [Stateful.run_lift, Prod.mk.injEq] at spans
  obtain ⟨spans, rfl⟩ := spans
  cases fetched with
  | nil =>
    -- a sweep without entries only counts what is pending
    cases ran
    refine ⟨[], [], _, [], _, .idle spans read fetches, rfl, ?_, rfl⟩
    exact (Site.withRows_rows t table).symm
  | cons first others =>
    obtain ⟨endpoints, looked, looks, ran⟩ := Stateful.run_bind_eq_ok_iff.mp ran
    obtain ⟨transitions, left, attempts, ran⟩ := Stateful.run_bind_eq_ok_iff.mp ran
    obtain ⟨ids, settled, writes, ran⟩ := Stateful.run_bind_eq_ok_iff.mp ran
    obtain ⟨rows, applied, rfl⟩ := (Site.applyTransitions_writes table _).eq_ok writes
    rw [Stateful.run_bind_ok (giveBack_run _ _), Site.rows_withRows, Site.withRows_withRows] at ran
    cases ran
    exact ⟨_, transitions, left, ids, rows, .worked spans read fetches
      (DeliverySweep.endpointsFor_eq_ok looks) attempts, applied, rfl, rfl⟩

end Surroundings

end OutboxRelay
