import OutboxRelay.Proofs.SweepOutcome

namespace OutboxRelay

/-- The endpoints are not part of an outbox table. -/
theorem Store.rows_endpoints (store : Store) (endpoints : EndpointRows) (table : OutboxTable) :
    ({ store with tables := { store.tables with endpoints } } : Store).rows table =
      store.rows table := by
  cases table <;> rfl

/-- A lease that can be a period is at least the soft limit and one request long. -/
theorem DeliveryConfig.effectiveLease_bounds {config : DeliveryConfig} {lease : Period}
    (spans : config.effectiveLease.toPeriod? = some lease) :
    config.softLimit.nanos + defaultRequestTimeout.nanos ≤ config.effectiveLease.nanos ∧
      (config.effectiveLease.nanos : Int) ≤ Period.limitNanos := by
  have bound : (config.effectiveLease.nanos : Int) ≤ Period.limitNanos := by
    unfold Span.toPeriod? at spans
    split at spans
    · assumption
    · cases spans
  refine ⟨?_, bound⟩
  -- the sum is not cut off, for then it could not be a period
  have longest : Period.limitNanos < Span.limitNanos := by decide
  revert bound
  unfold effectiveLease Span.max Span.saturatingAdd
  split <;> intro bound <;> simp only at * <;> omega

/-- Every claim ends later than it begins. -/
theorem DeliveryConfig.claim_ends_later (config : DeliveryConfig) {lease : Period}
    {now claimEnd : Instant} (spans : config.effectiveLease.toPeriod? = some lease)
    (ends : now.add? lease = some claimEnd) : now.stored.lt claimEnd.stored = true := by
  obtain ⟨least, _⟩ := effectiveLease_bounds spans
  obtain ⟨_, isLease⟩ := Option.ite_none_right_eq_some.mp spans
  rw [← Option.some.inj isLease] at ends
  refine Instant.stored_lt_of_add? ?_ ends
  simp only [defaultRequestTimeout, Span.ofSeconds, nanosPerSecond] at least
  change 2000000000 ≤ (config.effectiveLease.nanos : Int)
  omega

namespace Circumstances
variable {c : Circumstances} {table : OutboxTable} {config : DeliveryConfig} {s : Site Course}

/-- The end of the claim that a sweep makes, if there is such a time. -/
def claimEnd? (c : Circumstances) (config : DeliveryConfig) : Option Instant :=
  config.effectiveLease.toPeriod?.bind fun lease => (c.clock 0).add? lease

theorem claimEnd?_later {claimEnd : Instant} (ends : c.claimEnd? config = some claimEnd) :
    (c.clock 0).stored.lt claimEnd.stored = true := by
  obtain ⟨lease, spans, added⟩ := Option.bind_eq_some_iff.mp ends
  exact config.claim_ends_later spans added

/-- What a sweep with the default retry policy comes to. -/
def sweep (c : Circumstances) (table : OutboxTable) (config : DeliveryConfig) (s : Site Course) :
    Except Error DeliveryStats × Site Course :=
  (({ config } : DeliverySweep).run (c.services table)).run s

/-- A site at the time that a sweep begins. -/
def reading (c : Circumstances) (s : Site Course) : Site Course :=
  { s with clock := c.clock 0, others := {} }

/-- The site once a sweep has looked at the clock for the first time. -/
def begun (c : Circumstances) (s : Site Course) : Site Course := (c.reading s).atEntry 0

theorem now_run (fresh : s.others = {}) : c.now.run s = (.ok (c.clock 0), c.begun s) := by
  obtain ⟨store, clock, uptime, others⟩ := s
  cases fresh
  rfl

theorem giveBack_run {entries : List OutboxEntry} {count : Nat} {rows : OutboxRows}
    (released : OutboxRows.release (s.store.rows table) entries s.clock = .ok (count, rows)) :
    (DeliverySweep.giveBack (c.services table) entries).run s = (.ok (), s.withRows table rows) := by
  cases entries with
  | nil =>
    cases released
    exact congrArg (Prod.mk _) (Site.withRows_rows s table).symm
  | cons entry rest =>
    have gave : ((c.services table).release (entry :: rest)).run s =
        (.ok count, s.withRows table rows) := (Site.release_writes table _).ok released
    change (match ((c.services table).release (entry :: rest)).run s with
      | (_, s) => ((.ok (), s) : Except Error Unit × Site Course)) = _
    rw [gave]

theorem endpointsFor_run (entries : List OutboxEntry) (s : Site Course) :
    (DeliverySweep.endpointsFor (c.services table) entries).run s =
      (.ok (EndpointRows.listActive s.store.tables.endpoints), s) := rfl

theorem pendingCount_run (s : Site Course) : (c.services table).pendingCount.run s =
    (.ok (OutboxRows.pendingCount (s.store.rows table)), s) := rfl

/-- The services of a sweep that looks for the endpoints and gives entries back in other ways, which
may fail. -/
def failing (c : Circumstances) (table : OutboxTable)
    (lookup : Sweep (Site Course) (List WebhookEndpoint))
    (release : List OutboxEntry → Sweep (Site Course) Nat) : DeliveryServices (Site Course) :=
  { c.services table with listActive := lookup, release }

section
variable (sweep : DeliverySweep) {lease : Period}

theorem lease_run_some (spans : sweep.config.effectiveLease.toPeriod? = some lease)
    (s : Site Course) :
    (liftM sweep.lease : Sweep (Site Course) Period).run s = (.ok lease, s) := by
  rw [Stateful.run_lift, DeliverySweep.lease, spans]

variable (table) (lookup : Sweep (Site Course) (List WebhookEndpoint))
  (release : List OutboxEntry → Sweep (Site Course) Nat)

theorem failing_now_run (fresh : s.others = {}) :
    (c.failing table lookup release).now.run s = (.ok (c.clock 0), c.begun s) := now_run fresh

/-- A sweep that cannot claim anything leaves everything as it is. -/
theorem run_refused (fresh : s.others = {}) (refused : c.claimEnd? sweep.config = none) :
    ∃ detail s', (sweep.run (c.failing table lookup release)).run s =
      (.error (.config ("claim lease out of range: " ++ detail)), s') ∧ s'.store = s.store ∧
        s'.others.posts = [] := by
  cases spans : sweep.config.effectiveLease.toPeriod? with
  | none =>
    refine ⟨"Source duration value is out of range for the target type", s, ?_, rfl, by rw [fresh]⟩
    rw [DeliverySweep.run]
    refine Stateful.run_bind_error ?_
    rw [Stateful.run_lift, DeliverySweep.lease, spans]
    rfl
  | some lease =>
    rw [claimEnd?, spans, Option.bind_some] at refused
    refine ⟨lease.text, c.begun s, ?_, rfl, by rfl⟩
    rw [DeliverySweep.run, Stateful.run_bind_ok (lease_run_some sweep spans s),
      Stateful.run_bind_ok (failing_now_run table lookup release fresh)]
    refine Stateful.run_bind_error ((Site.fetchDue_writes table _ _ _).error ?_)
    rw [OutboxRows.fetchDue, OutboxTable.claimEnd, refused]
    rfl

/-- A batch cannot have fewer entries than none. -/
theorem run_negative {claimEnd : Instant} (fresh : s.others = {})
    (ends : c.claimEnd? sweep.config = some claimEnd) (negative : sweep.config.batchSize < 0) :
    (sweep.run (c.failing table lookup release)).run s =
      (.error (.database .negativeLimit), c.begun s) := by
  obtain ⟨lease, spans, ends⟩ := Option.bind_eq_some_iff.mp ends
  rw [DeliverySweep.run, Stateful.run_bind_ok (lease_run_some sweep spans s),
    Stateful.run_bind_ok (failing_now_run table lookup release fresh)]
  refine Stateful.run_bind_error ((Site.fetchDue_writes table _ _ _).error ?_)
  have known : (c.clock 0).isKnownAt (c.begun s).clock = true := Instant.isKnownAt_self _
  rw [OutboxRows.fetchDue, OutboxTable.claimEnd, ends, OutboxRows.firstDue, known, if_pos negative]
  rfl

end

/-- Every retry comes before the end of the calendar. -/
def LeavesRoom (c : Circumstances) : Prop :=
  ∀ k secs, 60 ≤ secs → secs ≤ 3960 → (c.clock k).add? (Period.ofSeconds secs) ≠ none

/-- Sixty-six minutes are room enough. -/
theorem leavesRoom_of_early (early : ∀ k, (c.clock k).nanos < nanosPerSecond ∧
    Instant.minSecs ≤ (c.clock k).secs ∧ (c.clock k).secs + 3960 ≤ Instant.maxSecs) :
    c.LeavesRoom := by
  intro k secs low high
  obtain ⟨ordinary, first, last⟩ := early k
  have inRange : (Instant.ofNanos ((c.clock k).toNanos + (Period.ofSeconds secs).nanos)).inRange =
      true := by
    rw [Instant.inRange, Bool.and_eq_true, decide_eq_true_eq, decide_eq_true_eq]
    simp only [Instant.ofNanos, Instant.toNanos, Period.ofSeconds, nanosPerSecond] at ordinary ⊢
    omega
  simp only [Instant.add?, if_pos ordinary, if_pos inRange]
  exact Option.some_ne_none _

variable {serial : Nat} {copies fetched : List OutboxEntry} {claimed : OutboxRows}
  {lease : Period} {transitions : List EntryTransition}

/-- What a sweep does once it has made its attempts. -/
def writeBack (c : Circumstances) (table : OutboxTable) (fetched : List OutboxEntry)
    (transitions : List EntryTransition) : Sweep (Site Course) DeliveryStats := do
  let applied ← (c.services table).applyTransitions transitions
  let deferred := fetched.drop transitions.length
  DeliverySweep.giveBack (c.services table) deferred
  let remaining ← (c.services table).pendingCount
  return DeliverySweep.stats transitions applied deferred.length remaining

section
variable {rows : OutboxRows} {time clock : Instant} {limit : Int}

open OutboxRows in
/-- Writing back what came of a batch, when the rows are as the fetch left them. -/
theorem writeBack_run (consistent : rows.Consistent) (tracked : rows.Tracked serial copies)
    (claims : rows.fetchDue time limit lease clock = .ok (fetched, claimed))
    (all : List.Forall₂ OutboxEntry.Attempted (fetched.take transitions.length) transitions)
    (messages : ∀ t ∈ transitions, hasNull t.errorMessage = false)
    (left : s.store.rows table = claimed) :
    let deferred := fetched.drop transitions.length
    let rows' := claimed.writtenBack transitions deferred s.clock s.clock
    (c.writeBack table fetched transitions).run s =
      (.ok (DeliverySweep.stats transitions (transitions.map (·.id)) deferred.length
        rows'.pendingCount), s.withRows table rows') := by
  intro deferred rows'
  have parts := List.take_append_drop transitions.length fetched
  rw [← parts] at claims
  have settled := settle_batch consistent tracked claims all messages s.clock
  obtain ⟨count, gave⟩ := release_batch consistent tracked claims all messages s.clock s.clock
  have applied : ((c.services table).applyTransitions transitions).run s =
      (.ok (transitions.map (·.id)),
        s.withRows table (claimed.map (rewrite (transitions.map (.settling s.clock))))) := by
    refine (Site.applyTransitions_writes table _).ok ?_
    rw [left]
    exact settled
  have back : (DeliverySweep.giveBack (c.services table) deferred).run
      (s.withRows table (claimed.map (rewrite (transitions.map (.settling s.clock))))) =
      (.ok (), s.withRows table rows') := by
    rw [← Site.rows_withRows s table (claimed.map _)] at gave
    rw [← Site.withRows_withRows s table _ rows']
    exact giveBack_run gave
  have remains : ((c.services table).pendingCount).run (s.withRows table rows') =
      (.ok rows'.pendingCount, s.withRows table rows') := by
    rw [pendingCount_run, Site.rows_withRows]
  rw [writeBack, Stateful.run_bind_ok applied, Stateful.run_bind_ok back,
    Stateful.run_bind_ok remains, Stateful.run_pure]

/-- A message with U+0000 stops the writing, and what was not attempted is not given back either. -/
theorem writeBack_refused (consistent : rows.Consistent) (tracked : rows.Tracked serial copies)
    (claims : rows.fetchDue time limit lease clock = .ok (fetched, claimed))
    (all : List.Forall₂ OutboxEntry.Attempted (fetched.take transitions.length) transitions)
    (null : ∃ t ∈ transitions, hasNull t.errorMessage = true)
    (left : s.store.rows table = claimed) :
    (c.writeBack table fetched transitions).run s = (.error (.database .nullCharacter), s) := by
  rw [writeBack]
  refine Stateful.run_bind_error ((Site.applyTransitions_writes table _).error ?_)
  rw [left]
  have held : ∀ t ∈ transitions, ∃ entry ∈ copies ++ (fetched.take transitions.length ++
      fetched.drop transitions.length), entry.Attempted t := attempted_held all
  rw [List.take_append_drop] at held
  cases settled : claimed.applyTransitions transitions s.clock with
  | error e =>
    rw [((tracked.fetchDue consistent claims).applyTransitions_error (consistent.fetchDue claims)
      held settled).1]
  | ok result =>
    obtain ⟨t, member, isNull⟩ := null
    rw [OutboxRows.clean_of_settled settled t member] at isNull
    cases isNull

end

/-- A sweep that has claimed entries attempts them and writes back what came of it. -/
theorem run_batch (fresh : s.others = {}) (consistent : (s.store.rows table).Consistent)
    (tracked : (s.store.rows table).Tracked serial copies)
    (spans : config.effectiveLease.toPeriod? = some lease)
    (claims : (s.store.rows table).fetchDue (c.clock 0) config.batchSize lease (c.clock 0) =
      .ok (fetched, claimed)) (room : c.LeavesRoom) :
    ∃ transitions t, c.sweep table config s = (c.writeBack table fetched transitions).run t ∧
      t.store = (s.withRows table claimed).store ∧
      c.Attempts { config } (EndpointRows.listActive s.store.tables.endpoints) 0 [] fetched
        transitions t.others.posts ∧
      List.Forall₂ OutboxEntry.Attempted (fetched.take transitions.length) transitions := by
  have fetches : ((c.services table).fetchDue (c.clock 0) config.batchSize lease).run (c.begun s) =
      (.ok fetched, (c.begun s).withRows table claimed) :=
    (Site.fetchDue_writes table _ _ _).ok claims
  have read : (c.services table).now.run s = (.ok (c.clock 0), c.begun s) := now_run fresh
  have leases := lease_run_some { config } spans s
  rw [sweep, DeliverySweep.run, Stateful.run_bind_ok leases, Stateful.run_bind_ok read,
    Stateful.run_bind_ok fetches]
  cases fetched with
  | nil =>
    refine ⟨[], (c.begun s).withRows table claimed, ?_, rfl, .finished, .nil⟩
    have left := Site.rows_withRows (c.begun s) table claimed
    have writes := writeBack_run (c := c) consistent tracked claims .nil (List.forall_mem_nil _) left
    rw [writes, if_pos List.isEmpty_nil, Stateful.run_bind_ok (pendingCount_run _),
      Stateful.run_pure, Site.rows_withRows, Site.withRows_withRows]
    have kept : ∀ time : Instant, claimed.writtenBack [] [] time time = claimed := fun _ =>
      List.map_id' claimed
    exact congrArg (fun rows : OutboxRows => ((.ok (DeliverySweep.stats [] [] 0 rows.pendingCount),
      (c.begun s).withRows table rows) : Except Error DeliveryStats × Site Course)) (kept _).symm
  | cons first others =>
    have some : ¬(first :: others).isEmpty = true := nofun
    rw [if_neg some, Stateful.run_bind_ok (endpointsFor_run _ _), Site.endpoints_withRows]
    -- after the fetch the site is one where the first entry is next
    rcases c.attempt_run table { config } (EndpointRows.listActive s.store.tables.endpoints)
        (first :: others) 0 ((c.reading s).withRows table claimed) with
      ⟨transitions, posts, s', attempted, store, sent, attempts⟩ |
      ⟨k, entry, sent, fault, s', _, _, at_k, _, refused⟩
    · obtain ⟨done, deferred, parts, all⟩ := DeliverySweep.attempt_attempted attempted
      have isDone : (first :: others).take transitions.length = done := by
        rw [parts, ← all.length_eq, List.take_left]
      rw [← isDone] at all
      refine ⟨transitions, s', Stateful.run_bind_ok attempted, store, ?_, all⟩
      rw [sent]
      exact attempts
    · have taken : entry ∈ first :: others := List.mem_of_getElem? at_k
      have life := tracked.lifecycle entry (.inl (OutboxRows.due_of_fetched claims taken).1)
      obtain ⟨_, _, _, secs, low, high, past⟩ :=
        RetryPolicy.transition_default_error life.nonneg refused
      exact absurd past (room _ secs low high)

open OutboxRows in
/-- A sweep that has claimed entries goes through. -/
theorem run_claimed (fresh : s.others = {}) (consistent : (s.store.rows table).Consistent)
    (tracked : (s.store.rows table).Tracked serial copies)
    (spans : config.effectiveLease.toPeriod? = some lease)
    (claims : (s.store.rows table).fetchDue (c.clock 0) config.batchSize lease (c.clock 0) =
      .ok (fetched, claimed))
    (room : c.LeavesRoom)
    (urls : ∀ endpoint ∈ EndpointRows.listActive s.store.tables.endpoints,
      hasNull endpoint.url = false)
    (texts : ∀ posts endpoint entry, hasNull (c.answer posts endpoint entry).error = false) :
    ∃ stats started rows' s', c.sweep table config s =
        (.ok stats, s') ∧ s'.store = (s.withRows table rows').store ∧
      Swept c config fetched (EndpointRows.listActive s.store.tables.endpoints) started
        (s.store.rows table) rows' s'.others.posts stats := by
  obtain ⟨transitions, t, run, store, attempts, all⟩ :=
    run_batch fresh consistent tracked spans claims room
  have messages := attempts.messages (consistent.fetched_distinct claims) urls texts
  have left : t.store.rows table = claimed := by
    rw [store]
    exact Site.rows_withRows _ _ _
  have writes := writeBack_run (c := c) consistent tracked claims all messages left
  refine ⟨_, transitions.length, _, _, run.trans writes, ?_,
    Swept.of_attempts consistent tracked claims attempts all t.clock t.clock rfl⟩
  rw [Site.store_withRows_congr store, Site.withRows_withRows]

/-- A sweep from end to end. Unless its claim would have no end, it does to the first due entries
what `Swept` says. The clock has to leave room for a retry before the end of the calendar, as every
clock does that shows the time of day. Addresses and answers with a U+0000 are left out: no table
stores a message with one. -/
theorem sweep_outcome (c : Circumstances) (config : DeliveryConfig) {r : Relay}
    (reach : Relay.Reachable table r) (room : r.store.serial ≤ 2 ^ 128)
    (same : s.store.rows table = r.store.rows table) (fresh : s.others = {})
    (early : c.LeavesRoom)
    (urls : ∀ endpoint ∈ s.store.tables.endpoints, hasNull endpoint.url = false)
    (texts : ∀ posts endpoint entry, hasNull (c.answer posts endpoint entry).error = false) :
    (c.claimEnd? config = none → ∃ reason s',
      c.sweep table config s = (.error (.config reason), s') ∧ s'.store = s.store ∧
        s'.others.posts = []) ∧
    (∀ claimEnd, c.claimEnd? config = some claimEnd → config.batchSize < 0 → ∃ s',
      c.sweep table config s = (.error (.database .negativeLimit), s') ∧ s'.store = s.store ∧
        s'.others.posts = []) ∧
    ∀ claimEnd, c.claimEnd? config = some claimEnd → 0 ≤ config.batchSize →
      ∃ (due : List OutboxEntry) (active : List WebhookEndpoint),
        due.Perm ((s.store.rows table).filter (·.isDue (c.clock 0).stored)) ∧
        due.Pairwise OutboxEntry.Precedes ∧
        active.Perm (s.store.tables.endpoints.filter (·.isActive)) ∧
        active.Pairwise (fun a b => a.id.bits.toNat ≤ b.id.bits.toNat) ∧
        ∃ stats started rows' s', c.sweep table config s = (.ok stats, s') ∧
          s'.store = (s.withRows table rows').store ∧
          Swept c config (due.take config.batchSize.toNat) active started
            (s.store.rows table) rows' s'.others.posts stats := by
  have consistent := reach.consistent
  have tracked := reach.tracked room
  have readable := reach.readable
  rw [← same] at consistent tracked readable
  refine ⟨?_, ?_, ?_⟩
  · intro refused
    obtain ⟨detail, s', run⟩ := run_refused table { config } (c.services table).listActive
      (c.services table).release fresh refused
    exact ⟨_, s', run⟩
  · intro claimEnd ends negative
    exact ⟨c.begun s, run_negative table { config } (c.services table).listActive
      (c.services table).release fresh ends negative, rfl, rfl⟩
  · intro claimEnd isEnd nonneg
    obtain ⟨lease, spans, ends⟩ := Option.bind_eq_some_iff.mp isEnd
    have activeUrls : ∀ endpoint ∈ EndpointRows.listActive s.store.tables.endpoints,
        hasNull endpoint.url = false := fun endpoint member =>
      urls endpoint (List.mem_of_mem_filter ((EndpointRows.listActive_perm _).mem_iff.mp member))
    have fetchable := readable.fetchable nonneg (Instant.isKnownAt_self (c.clock 0))
      (Instant.isKnownAt_of_lt (claimEnd?_later isEnd))
    exact ⟨_, _, OutboxRows.due_perm _ _, OutboxRows.due_sorted _ _,
      EndpointRows.listActive_perm _, EndpointRows.listActive_sorted _,
      run_claimed fresh consistent tracked spans
        (OutboxRows.fetchDue_eq_ok_iff.mpr ⟨claimEnd, ends, fetchable, rfl, rfl⟩) early activeUrls
        texts⟩

/-- The theorem about an event that the only subscriber refuses. -/
theorem sweep_outcome_refused :
    let time : Instant := ⟨1767225600, 0⟩
    let r := ({} : Relay).perform .core
      ⟨{}, time, .emit ⟨"file", "1", "file.stored", none, none⟩⟩
    let endpoints : List WebhookEndpoint :=
      [⟨Uuid.ofSerial 1, "http://a.test", "secret", [], true, time, time⟩]
    let s : Site Course :=
      { store := { r.store with tables := { r.store.tables with endpoints } }
        clock := time
        others := {} }
    let c : Circumstances :=
      ⟨fun _ => time, fun _ => ⟨0⟩, fun _ _ => 0, fun _ _ _ => .failure (some 500) "HTTP 500"⟩
    Relay.Reachable .core r ∧ r.store.serial ≤ 2 ^ 128 ∧ c.LeavesRoom ∧
      (∀ endpoint ∈ s.store.tables.endpoints, hasNull endpoint.url = false) ∧
      (∀ posts endpoint entry, hasNull (c.answer posts endpoint entry).error = false) ∧
      ∃ due active started rows' s', c.sweep .core {} s = (.ok ⟨1, 0, 0, 0, 0, 1⟩, s') ∧
        Swept c {} due active started (s.store.rows .core) rows' s'.others.posts
          ⟨1, 0, 0, 0, 0, 1⟩ := by
  intro time r endpoints s c
  have reach : Relay.Reachable .core r := .perform .empty ⟨nofun, nofun⟩
  have room : r.store.serial ≤ 2 ^ 128 := by decide +kernel
  have early : c.LeavesRoom := leavesRoom_of_early fun _ =>
    (by decide : time.nanos < nanosPerSecond ∧ Instant.minSecs ≤ time.secs ∧
      time.secs + 3960 ≤ Instant.maxSecs)
  have urls : ∀ endpoint ∈ s.store.tables.endpoints, hasNull endpoint.url = false := by
    decide +kernel
  have texts : ∀ posts endpoint entry, hasNull (c.answer posts endpoint entry).error = false :=
    fun _ _ _ => (by decide : hasNull "HTTP 500" = false)
  have counted : (c.sweep .core {} s).1.toOption = some ⟨1, 0, 0, 0, 0, 1⟩ := by decide +kernel
  have ends : c.claimEnd? {} = some ⟨1767225900, 0⟩ := by decide +kernel
  refine ⟨reach, room, early, urls, texts, ?_⟩
  obtain ⟨_, _, outcome⟩ := sweep_outcome (s := s) c {} reach room
    (r.store.rows_endpoints endpoints .core) rfl early urls texts
  obtain ⟨due, active, _, _, _, _, stats, started, rows', s', run, _, all⟩ :=
    outcome _ ends (by decide)
  rw [run] at counted
  cases counted
  exact ⟨_, active, started, rows', s', run, all⟩

/-- Whether sweeps go through whatever happens. -/
def AlwaysSweeps : Prop :=
  ∀ (c : Circumstances) (config : DeliveryConfig) (table : OutboxTable) (r : Relay)
    (s : Site Course), Relay.Reachable table r → r.store.serial ≤ 2 ^ 128 →
    s.store.rows table = r.store.rows table → s.others = {} → c.LeavesRoom →
    (∀ endpoint ∈ s.store.tables.endpoints, hasNull endpoint.url = false) →
    (∀ posts endpoint entry, hasNull (c.answer posts endpoint entry).error = false) →
    0 ≤ config.batchSize →
    ∃ (due : List OutboxEntry) (active : List WebhookEndpoint),
      due.Perm ((s.store.rows table).filter (·.isDue (c.clock 0).stored)) ∧
      due.Pairwise OutboxEntry.Precedes ∧
      active.Perm (s.store.tables.endpoints.filter (·.isActive)) ∧
      active.Pairwise (fun a b => a.id.bits.toNat ≤ b.id.bits.toNat) ∧
      ∃ stats started rows' s', c.sweep table config s = (.ok stats, s') ∧
        s'.store = (s.withRows table rows').store ∧
        Swept c config (due.take config.batchSize.toNat) active started
          (s.store.rows table) rows' s'.others.posts stats

/-- A lease that is longer than any period stops a sweep before it claims anything. -/
theorem not_alwaysSweeps : ¬AlwaysSweeps := by
  intro claim
  let time : Instant := ⟨1767225600, 0⟩
  let r := ({} : Relay).perform .core
    ⟨{}, time, .emit ⟨"file", "1", "file.stored", none, none⟩⟩
  have reach : Relay.Reachable .core r := .perform .empty ⟨nofun, nofun⟩
  have room : r.store.serial ≤ 2 ^ 128 := by decide +kernel
  let c : Circumstances :=
    ⟨fun _ => time, fun _ => ⟨0⟩, fun _ _ => 0, fun _ _ _ => .success 200⟩
  let config : DeliveryConfig := { claimLease := Span.ofSeconds 18446744073709551615 }
  let s : Site Course := { store := r.store, clock := time, others := {} }
  have early : c.LeavesRoom := leavesRoom_of_early fun _ =>
    (by decide : time.nanos < nanosPerSecond ∧ Instant.minSecs ≤ time.secs ∧
      time.secs + 3960 ≤ Instant.maxSecs)
  have refused : (c.sweep .core config s).1.toOption = none := by decide +kernel
  obtain ⟨_, _, _, _, _, _, stats, _, _, s', run, _⟩ := claim c config .core r s reach room rfl
    rfl early (by decide +kernel) (fun _ _ _ => (by decide : hasNull "" = false)) (by decide)
  rw [run] at refused
  cases refused

end Circumstances

end OutboxRelay
