import OutboxRelay.Config.Transport
import OutboxRelay.Proofs.SweepRun
import OutboxRelay.Proofs.TimedSweep

namespace OutboxRelay

/-- A unit of work that puts one event in. -/
theorem Store.perform_emit {s : Store} (db : Database) (now : Instant) {event : NewOutboxEvent}
    {rows : OutboxRows} (clean : event.resolvedPayload.hasNull = false)
    (readable : event.resolvedPayload.readBack?.isSome = true)
    (inserted : (s.rows db.outbox.table).insert
      (db.outbox.newEntry (Uuid.ofSerial s.serial) event now) = .ok rows) :
    (s.perform ⟨db, now, .emit event⟩).2.rows db.outbox.table = rows ∧
      (s.perform ⟨db, now, .emit event⟩).2.serial = s.serial + 1 := by
  have put : OutboxSettings.insertEntry event
      (db.outbox.newEntry (Uuid.ofSerial s.begin.serial) event now)
      (s.begin.tables.outbox db.outbox.table) = .ok (_, rows) :=
    OutboxSettings.insertEntry_eq_ok_iff.mpr ⟨rfl, clean, inserted⟩
  have isReadable : (db.outbox.newEntry (Uuid.ofSerial s.begin.serial) event now).isReadable =
      true := readable
  have emitted := db.outbox.run_emit now event (u := s.begin) rfl
  rw [put] at emitted
  dsimp only at emitted
  rw [if_pos isReadable] at emitted
  have run : (Call.run db now (.emit event) : Work Reply).run s.begin = _ :=
    (Stateful.run_map _ _ _).trans (by rw [Work.transaction_part, emitted])
  rw [perform_of_ok run]
  exact ⟨Tables.outbox_setOutbox _ _ _, rfl⟩

namespace Relay

/-- Events of different keys. -/
def numberedEvent (n : Nat) : NewOutboxEvent :=
  ⟨"file", String.ofList (List.replicate n 'x'), "file.stored", none, none⟩

/-- The entry of an event that is the only one of its number. -/
def numberedEntry (time : Instant) (n : Nat) : OutboxEntry :=
  ({} : OutboxSettings).newEntry (Uuid.ofSerial n) (numberedEvent n) time

/-- So many events, all put in at the same time. -/
def emitted (time : Instant) : Nat → Relay
  | 0 => {}
  | n + 1 => (emitted time n).perform .core ⟨{}, time, .emit (numberedEvent n)⟩

theorem emitted_reachable (time : Instant) (n : Nat) : Reachable .core (emitted time n) := by
  induction n with
  | zero => exact .empty
  | succ n ih => exact .perform ih ⟨nofun, nofun⟩

theorem numberedEntry_fault? (time : Instant) (n : Nat) :
    (numberedEntry time n).fault? = none := by
  have name : hasNull (String.ofList (List.replicate n 'x')) = false := by
    rw [hasNull, String.toList_ofList, List.any_eq_false]
    intro c member
    rw [List.eq_of_mem_replicate member]
    decide
  have key : hasNull (numberedEntry time n).idempotencyKey = false := by
    change hasNull ("file" ++ ":" ++ String.ofList (List.replicate n 'x')) = false
    rw [hasNull_append, hasNull_append, name]
    decide
  rw [OutboxEntry.fault?_eq_none_iff]
  refine ⟨⟨?_, (by decide : hasNull "" = false)⟩, (by decide : fitsInt32 0 = true),
    (by decide : fitsInt32 defaultMaxAttempts = true), rfl⟩
  · rw [List.any_eq_false]
    intro text member
    simp only [List.mem_cons, List.not_mem_nil, or_false] at member
    rw [Bool.not_eq_true]
    rcases member with rfl | rfl | rfl | rfl
    · exact (by decide : hasNull "file" = false)
    · exact name
    · exact (by decide : hasNull "file.stored" = false)
    · exact key

theorem numberedEntry_key (time : Instant) {m n : Nat}
    (same : (numberedEntry time m).idempotencyKey = (numberedEntry time n).idempotencyKey) :
    m = n := by
  have lengths := congrArg String.length same
  change ("file" ++ ":" ++ String.ofList (List.replicate m 'x')).length =
    ("file" ++ ":" ++ String.ofList (List.replicate n 'x')).length at lengths
  simpa only [String.length_append, String.length_ofList, List.length_replicate,
    Nat.add_left_cancel_iff] using lengths

theorem emitted_rows (time : Instant) {n : Nat} (room : n ≤ 2 ^ 128) :
    (emitted time n).store.serial = n ∧
      (emitted time n).store.rows .core = (List.range n).map (numberedEntry time) := by
  induction n with
  | zero => exact ⟨rfl, rfl⟩
  | succ n ih =>
    obtain ⟨serial, rows⟩ := ih (by omega)
    have inserted : ((emitted time n).store.rows .core).insert
        (({} : OutboxSettings).newEntry (Uuid.ofSerial (emitted time n).store.serial)
          (numberedEvent n) time) =
        .ok ((List.range (n + 1)).map (numberedEntry time)) := by
      rw [serial, rows, OutboxRows.insert_eq_ok_iff]
      refine ⟨numberedEntry_fault? time n, ?_, ?_, ?_⟩
      · intro row member same
        obtain ⟨i, below, rfl⟩ := List.mem_map.mp member
        have isLast : i = n := numberedEntry_key time same.2
        exact absurd (List.mem_range.mp below) (by omega)
      · intro row member
        obtain ⟨i, below, rfl⟩ := List.mem_map.mp member
        exact Uuid.ofSerial_ne (List.mem_range.mp below) (by omega)
      · rw [List.range_succ, List.map_append]
        rfl
    have clean : (numberedEvent n).resolvedPayload.hasNull = false :=
      (by decide : Json.empty.hasNull = false)
    have readable : (numberedEvent n).resolvedPayload.readBack?.isSome = true :=
      (by decide : Json.empty.readBack?.isSome = true)
    obtain ⟨rows', serial'⟩ := Store.perform_emit {} time clean readable inserted
    exact ⟨serial'.trans (by rw [serial]), rows'⟩

end Relay

/-- Subscribers that take everything, each request so long that the first `n` of them take `total n`
together. -/
def Subscribers.paced (total : Nat → Nat) : Subscribers where
  latency posts _ _ := ⟨total (posts.length + 1) - total posts.length⟩
  answer _ _ _ := .success 200

/-- The requests so far have taken as long as they should, and the last has just ended. -/
structure Site.Paced (begun : Span) (total : Nat → Nat) (s : Site (List TimedPost)) : Prop where
  uptime : s.uptime.nanos = begun.nanos + total s.others.length
  last : ∀ post, s.others.getLast? = some post → post.ended = s.uptime

namespace Subscribers
variable {total : Nat → Nat} (table : OutboxTable) {begun s : Site (List TimedPost)}
  (draw : Int → Int)

theorem failures_paced (entry : OutboxEntry) (rising : ∀ n, total n ≤ total (n + 1))
    (endpoints : List WebhookEndpoint)
    (paced : s.Paced begun.uptime total) :
    ∃ s', (DeliverySweep.failures ((Subscribers.paced total).services table begun draw) entry
        endpoints).run s = (.ok [], s') ∧ s'.Paced begun.uptime total ∧
      s'.others.length = s.others.length + endpoints.length := by
  induction endpoints generalizing s with
  | nil => exact ⟨s, rfl, paced, rfl⟩
  | cons endpoint rest ih =>
    obtain ⟨post, sent, delivered, atEnd, passed, clock⟩ : ∃ post sent,
        (((Subscribers.paced total).services table begun draw).deliver endpoint entry).run s =
          (.ok (.success 200), sent) ∧ post.ended = sent.uptime ∧ sent.others = s.others ++ [post] ∧
        sent.uptime.nanos =
          s.uptime.nanos + (total (s.others.length + 1) - total s.others.length) :=
      ⟨_, _, rfl, rfl, rfl, rfl⟩
    have more := rising s.others.length
    have count : sent.others.length = s.others.length + 1 := by
      rw [passed, List.length_append, List.length_singleton]
    have paced' : sent.Paced begun.uptime total := by
      refine ⟨?_, fun other isLast => ?_⟩
      · rw [clock, paced.uptime, count]
        omega
      · rw [passed, List.getLast?_append_of_ne_nil _ (List.cons_ne_nil _ _)] at isLast
        cases isLast
        exact atEnd
    obtain ⟨s', others, paced'', count'⟩ := ih paced'
    refine ⟨s', ?_, paced'', ?_⟩
    · rw [DeliverySweep.failures, Stateful.run_bind_ok delivered, Stateful.run_bind_ok others]
      rfl
    · rw [count', count, List.length_cons]
      omega

/-- As long as there is time every entry is sent to all endpoints that take everything. -/
theorem attempt_paced (sweep : DeliverySweep) (rising : ∀ n, total n ≤ total (n + 1))
    {endpoints : List WebhookEndpoint} (all : ∀ endpoint ∈ endpoints, endpoint.eventTypes = [])
    (entries : List OutboxEntry) (paced : s.Paced begun.uptime total)
    (inTime : ∀ k < entries.length,
      total (s.others.length + k * endpoints.length) < sweep.config.softLimit.nanos) :
    let s' := ((sweep.attempt ((Subscribers.paced total).services table begun draw) endpoints
      entries).run s).2
    s'.Paced begun.uptime total ∧
      s'.others.length = s.others.length + entries.length * endpoints.length := by
  induction entries generalizing s with
  | nil => exact ⟨paced, by rw [List.length_nil, Nat.zero_mul]; rfl⟩
  | cons entry rest ih =>
    intro s'
    have first := inTime 0 (Nat.succ_pos _)
    rw [Nat.zero_mul, Nat.add_zero] at first
    have looks : ((Subscribers.paced total).services table begun draw).stopwatch.run s =
        (.ok ⟨s.uptime.nanos - begun.uptime.nanos⟩, s) := rfl
    have early : ¬ sweep.config.softLimit.nanos ≤ s.uptime.nanos - begun.uptime.nanos := by
      rw [paced.uptime]
      omega
    have toAll : endpoints.filter (·.subscribesTo entry.eventType) = endpoints := by
      refine List.filter_eq_self.mpr fun endpoint member => ?_
      rw [WebhookEndpoint.subscribesTo, WebhookEndpoint.isCatchAll, all endpoint member]
      rfl
    obtain ⟨sent, run, paced', count⟩ := failures_paced table draw entry rising
      endpoints paced
    have delivered : (DeliverySweep.deliverEntry ((Subscribers.paced total).services table begun
        draw) endpoints entry).run s = (.ok none, sent) := by
      rw [DeliverySweep.deliverEntry, toAll, Stateful.run_bind_ok run]
      rfl
    have reads : ((Subscribers.paced total).services table begun draw).now.run sent =
        (.ok sent.clock, sent) := rfl
    have draws : ((Subscribers.paced total).services table begun draw).draw.run sent =
        (.ok draw, sent) := rfl
    obtain ⟨paced'', count'⟩ := ih paced' fun k bound => by
      have later := inTime (k + 1) (Nat.succ_lt_succ bound)
      rw [Nat.succ_mul] at later
      rw [count, show s.others.length + endpoints.length + k * endpoints.length =
        s.others.length + (k * endpoints.length + endpoints.length) by omega]
      exact later
    have kept : Site.Still ((sweep.attempt ((Subscribers.paced total).services table begun draw)
        endpoints rest).run sent).2 s' := by
      change Site.Still _ ((sweep.attempt _ endpoints (entry :: rest)).run s).2
      rw [DeliverySweep.attempt, Stateful.run_bind_ok looks, if_neg early,
        Stateful.run_bind_ok delivered, Stateful.run_bind_ok reads, Stateful.run_bind_ok draws]
      exact Site.still_bind _ (fun more => Site.quiet_pure _) sent
    rw [List.length_cons, Nat.succ_mul]
    refine ⟨⟨?_, ?_⟩, ?_⟩
    · rw [kept.uptime, kept.others]
      exact paced''.uptime
    · rw [kept.uptime, kept.others]
      exact paced''.last
    · rw [kept.others, count', count]
      omega

end Subscribers

/-- What requests take together if those before a number take `delay` in all, as early as the time
limit allows, and those after it the time limit each. -/
def slowTotal (delay timeout before n : Nat) : Nat :=
  min delay (n * timeout) + (n - before) * timeout

section
variable {delay timeout before n : Nat}

theorem slowTotal_rising (delay timeout before n : Nat) :
    slowTotal delay timeout before n ≤ slowTotal delay timeout before (n + 1) := by
  have later : (n - before) * timeout ≤ (n + 1 - before) * timeout :=
    Nat.mul_le_mul_right _ (by omega)
  unfold slowTotal
  rw [Nat.succ_mul]
  omega

theorem slowTotal_step (enough : delay ≤ before * timeout) :
    slowTotal delay timeout before (n + 1) - slowTotal delay timeout before n ≤ timeout := by
  unfold slowTotal
  by_cases early : n < before
  · rw [show n + 1 - before = 0 by omega, show n - before = 0 by omega, Nat.succ_mul]
    omega
  · have passed : before * timeout ≤ n * timeout := Nat.mul_le_mul_right _ (by omega)
    rw [show n + 1 - before = n - before + 1 by omega, Nat.succ_mul, Nat.succ_mul]
    omega

theorem slowTotal_before (early : n ≤ before) : slowTotal delay timeout before n ≤ delay := by
  rw [slowTotal, show n - before = 0 by omega, Nat.zero_mul, Nat.add_zero]
  exact Nat.min_le_left _ _

theorem slowTotal_after (enough : delay ≤ before * timeout) (n : Nat) :
    slowTotal delay timeout before (before + n) = delay + n * timeout := by
  rw [slowTotal, Nat.add_sub_cancel_left, Nat.add_mul]
  omega

end

/-- Every request of every sweep ends before the claim on what the sweep fetched does, if there are
at most so many active endpoints and no request takes longer than the time limit. -/
def DeliveryConfig.CoversSweeps (config : DeliveryConfig) (timeout : Span) (active : Nat) : Prop :=
  ∀ (table : OutboxTable) (r : Relay) (s : Site (List TimedPost)) (policy : RetryPolicy)
    (draw : Int → Int) (subscribers : Subscribers), Relay.Reachable table r →
    s.store.rows table = r.store.rows table →
    s.store.tables.endpoints.Pairwise (fun a b => a.id ≠ b.id) →
    s.store.tables.endpoints.countP (·.isActive) ≤ active →
    s.others = [] → subscribers.Within timeout →
    ∀ post ∈ ((({ config, policy } : DeliverySweep).run
      (subscribers.services table s draw)).run s).2.others,
      post.ended.nanos ≤ s.uptime.nanos + config.effectiveLease.nanos

/-- So many active endpoints that take every event. -/
def catchAlls (time : Instant) (count : Nat) : EndpointRows :=
  (List.range count).map fun n =>
    ⟨Uuid.ofSerial n, "http://a.test", "secret", [], true, time, time⟩

theorem catchAlls_distinct (time : Instant) {count : Nat} (few : count ≤ 2 ^ 128) :
    (catchAlls time count).Pairwise fun a b => a.id ≠ b.id := by
  rw [catchAlls, List.pairwise_map]
  refine List.pairwise_lt_range.imp_of_mem fun _ inRange less => ?_
  exact Uuid.ofSerial_ne less (Nat.lt_of_lt_of_le (List.mem_range.mp inRange) few)

theorem countP_catchAlls (time : Instant) (count : Nat) :
    (catchAlls time count).countP (·.isActive) = count := by
  rw [catchAlls, List.countP_map]
  exact (List.countP_eq_length.mpr fun _ _ => rfl).trans List.length_range

theorem Relay.emitted_due (time : Instant) {n : Nat} (room : n ≤ 2 ^ 128) :
    (((Relay.emitted time n).store.rows .core).due time).length = n := by
  have all : ∀ entry ∈ (List.range n).map (numberedEntry time), entry.isDue time.stored = true := by
    intro entry member
    obtain ⟨i, _, rfl⟩ := List.mem_map.mp member
    exact Instant.le_refl time.stored
  rw [(Relay.emitted_rows time room).2, (OutboxRows.due_perm _ _).length_eq,
    List.filter_eq_self.mpr all, List.length_map, List.length_range]

/-- A site with so many entries that are due and so many endpoints that take them all. -/
def busySite (time : Instant) (entries active : Nat) : Site (List TimedPost) where
  store :=
    let store := (Relay.emitted time entries).store
    { store with tables := { store.tables with endpoints := catchAlls time active } }
  clock := time
  others := []

theorem rows_busySite (time : Instant) (entries active : Nat) :
    (busySite time entries active).store.rows .core =
      (Relay.emitted time entries).store.rows .core :=
  Store.rows_endpoints _ _ .core

theorem listActive_catchAlls (time : Instant) (count : Nat) :
    (EndpointRows.listActive (catchAlls time count)).length = count ∧
      ∀ endpoint ∈ EndpointRows.listActive (catchAlls time count), endpoint.eventTypes = [] := by
  constructor
  · rw [(EndpointRows.listActive_perm _).length_eq, ← List.countP_eq_length_filter,
      countP_catchAlls]
  · intro endpoint member
    have inTable := List.mem_of_mem_filter ((EndpointRows.listActive_perm _).mem_iff.mp member)
    obtain ⟨_, _, rfl⟩ := List.mem_map.mp inTable
    rfl

/-- A sweep that has time for a whole batch sends all of it at the given pace. -/
theorem busySite_sweep {config : DeliveryConfig} {lease : Period} {time claimEnd : Instant}
    {total : Nat → Nat} {n active : Nat} (spans : config.effectiveLease.toPeriod? = some lease)
    (ends : time.add? lease = some claimEnd) (room : n ≤ 2 ^ 128)
    (size : (n : Int) ≤ config.batchSize) (some : 0 < n * active)
    (rising : ∀ n, total n ≤ total (n + 1)) (begins : total 0 = 0)
    (inTime : ∀ k < n, total (k * active) < config.softLimit.nanos) :
    ∃ post ∈ ((({ config } : DeliverySweep).run ((Subscribers.paced total).services .core
        (busySite time n active) fun n => n)).run (busySite time n active)).2.others,
      post.ended.nanos = (busySite time n active).uptime.nanos + total (n * active) := by
  obtain ⟨claimed, claims⟩ : ∃ claimed, ((busySite time n active).store.rows .core).fetchDue
      (busySite time n active).clock config.batchSize lease (busySite time n active).clock =
        .ok ((((Relay.emitted time n).store.rows .core).due time).take config.batchSize.toNat,
          claimed) := by
    rw [rows_busySite]
    have fetchable := (Relay.emitted_reachable time n).readable.fetchable
      (by omega : 0 ≤ config.batchSize) (Instant.isKnownAt_self time)
      (Instant.isKnownAt_of_lt (config.claim_ends_later spans ends))
    exact ⟨_, OutboxRows.fetchDue_eq_ok_iff.mpr ⟨claimEnd, ends, fetchable, rfl, rfl⟩⟩
  have count : ((((Relay.emitted time n).store.rows .core).due time).take
      config.batchSize.toNat).length = n := by
    rw [List.length_take, Relay.emitted_due time room]
    omega
  obtain ⟨activeAll, takeAll⟩ := listActive_catchAlls time active
  have fresh : ((busySite time n active).withRows .core claimed).Paced
      (busySite time n active).uptime total :=
    ⟨by rw [show ((busySite time n active).withRows .core claimed).others = [] from rfl,
      List.length_nil, begins]; rfl, fun _ none => nomatch none⟩
  obtain ⟨paced, sent⟩ := Subscribers.attempt_paced .core (fun n => n) { config }
    rising takeAll _ fresh (by
      rw [count, activeAll]
      intro k bound
      rw [show ((busySite time n active).withRows .core claimed).others = [] from rfl,
        List.length_nil, Nat.zero_add]
      exact inTime k bound)
  have still := Subscribers.still_of_fetched (.paced total) (fun n => n) { config } spans claims
  change Site.Still ((DeliverySweep.attempt _ _ (EndpointRows.listActive (catchAlls time active))
    _).run _).2 _ at still
  rw [count, activeAll, show ((busySite time n active).withRows .core claimed).others = [] from rfl,
    List.length_nil, Nat.zero_add] at sent
  rw [still.others]
  rw [← sent] at some
  have isLast := List.getLast?_eq_some_getLast (List.ne_nil_of_length_pos some)
  refine ⟨_, List.mem_of_getLast? isLast, ?_⟩
  rw [paced.last _ isLast, paced.uptime, sent]

/-- A batch whose entries are as slow as can be, the last of them begun as late as can be. -/
theorem exists_slowest {config : DeliveryConfig} {lease : Period} {timeout : Span} {active : Nat}
    (spans : config.effectiveLease.toPeriod? = some lease)
    (positive : 0 < config.longestSweep timeout active) :
    ∃ n delay : Nat, n ≤ 2 ^ 128 ∧ (n : Int) ≤ config.batchSize ∧ 0 < n ∧ 0 < active ∧
      delay < config.softLimit.nanos ∧ delay ≤ (n - 1) * active * timeout.nanos ∧
      config.longestSweep timeout active = delay + active * timeout.nanos := by
  obtain ⟨least, most⟩ := DeliveryConfig.effectiveLease_bounds spans
  have greatest : Period.limitNanos < 2 ^ 128 := by decide
  unfold DeliveryConfig.longestSweep DeliveryConfig.latestEnd at positive ⊢
  by_cases nothing : config.softLimit.nanos = 0 ∨ config.batchSize ≤ 0
  · rw [if_pos nothing] at positive
    exact absurd positive (Nat.lt_irrefl 0)
  rw [if_neg nothing, Nat.zero_add] at positive ⊢
  rw [not_or, Int.not_le] at nothing
  obtain ⟨limit, size⟩ := nothing
  have cost : 0 < active * timeout.nanos := by
    rcases Nat.eq_zero_or_pos (active * timeout.nanos) with free | cost
    · rw [free, Nat.mul_zero] at positive
      omega
    · exact cost
  refine ⟨min config.batchSize.toNat (config.softLimit.nanos + 1), _, by omega, by omega, by omega,
    Nat.pos_of_mul_pos_right cost, ?_, ?_, rfl⟩
  · omega
  · rw [Nat.mul_assoc]
    by_cases small : config.batchSize.toNat ≤ config.softLimit.nanos + 1
    · rw [Nat.min_eq_left small]
      exact Nat.min_le_right _ _
    · have long : config.softLimit.nanos * 1 ≤ config.softLimit.nanos * (active * timeout.nanos) :=
        Nat.mul_le_mul_left _ cost
      rw [show min config.batchSize.toNat (config.softLimit.nanos + 1) - 1 =
        config.softLimit.nanos by omega]
      omega

/-- The lease covers every sweep exactly if it covers the longest one, given that there is a time
from which it can be taken. The soft limit is looked at once for an entry, but an entry costs one
request for each endpoint, and the least lease knows neither how many there are nor the time limit
of a request. -/
theorem coversSweeps_iff (config : DeliveryConfig) (transport : TransportConfig) {active : Nat}
    {lease : Period} {time claimEnd : Instant} (few : active ≤ 2 ^ 128)
    (spans : config.effectiveLease.toPeriod? = some lease)
    (ends : time.add? lease = some claimEnd) :
    config.CoversSweeps transport.timeout active ↔
      config.longestSweep transport.timeout active ≤ config.effectiveLease.nanos := by
  constructor
  · intro covers
    refine Nat.not_lt.mp fun short => ?_
    obtain ⟨n, delay, room, size, some, someActive, inTime, enough, isLongest⟩ :=
      exists_slowest spans (Nat.lt_of_le_of_lt (Nat.zero_le _) short)
    obtain ⟨post, sent, ended⟩ := busySite_sweep spans ends room size (Nat.mul_pos some someActive)
      (slowTotal_rising delay transport.timeout.nanos ((n - 1) * active))
      (by simp only [slowTotal, Nat.zero_mul, Nat.zero_sub, Nat.min_zero, Nat.add_zero])
      fun k bound => Nat.lt_of_le_of_lt
        (slowTotal_before (Nat.mul_le_mul_right _ (by omega))) inTime
    have bound := covers .core (Relay.emitted time n) (busySite time n active) {} (fun n => n)
      (.paced (slowTotal delay transport.timeout.nanos ((n - 1) * active)))
      (Relay.emitted_reachable time n) (rows_busySite time n active)
      (catchAlls_distinct time few) (Nat.le_of_eq (countP_catchAlls time active)) rfl
      (fun _ _ _ => slowTotal_step enough) post sent
    have whole : n * active = (n - 1) * active + active := by
      rw [← Nat.succ_mul]
      congr 1
      omega
    rw [ended, whole, slowTotal_after enough, ← isLongest] at bound
    omega
  · intro covered table r s policy draw subscribers _ _ _ active fresh within post sent
    have atMost := Subscribers.sweep_timed table draw { config, policy } within fresh active post sent
    exact Nat.le_trans atMost (Nat.add_le_add_left covered _)

/-- The theorem about the default settings: they cover three slow endpoints, but not four. -/
theorem coversSweeps_iff_default :
    let config : DeliveryConfig := {}
    let transport : TransportConfig := {}
    config.effectiveLease.toPeriod? = some (Period.ofSeconds 300) ∧
      Instant.add? ⟨1767225600, 0⟩ (Period.ofSeconds 300) = some ⟨1767225900, 0⟩ ∧
      config.CoversSweeps transport.timeout 3 ∧ ¬config.CoversSweeps transport.timeout 4 := by
  intro config transport
  have spans : config.effectiveLease.toPeriod? = some (Period.ofSeconds 300) := by decide
  have ends : Instant.add? ⟨1767225600, 0⟩ (Period.ofSeconds 300) = some ⟨1767225900, 0⟩ := by
    decide
  refine ⟨spans, ends, ?_, fun covers => ?_⟩
  · exact (coversSweeps_iff config transport (by decide) spans ends).mpr (by decide)
  · have longest := (coversSweeps_iff config transport (by decide) spans ends).mp covers
    exact absurd longest (by decide)

end OutboxRelay
