import OutboxRelay.Proofs.SweepOutcome

namespace OutboxRelay

namespace DeliveryConfig

/-- When the entry of a number is through at the latest, counted from the fetch, if `elapsed` has
passed before the first: it is begun before the soft limit, and once all entries before it are
through. -/
def latestEnd (config : DeliveryConfig) (perEntry elapsed k : Nat) : Nat :=
  min (config.softLimit.nanos - 1) (elapsed + k * perEntry) + perEntry

/-- The longest that it can take from the fetch of a sweep to the end of its last request, if each
request to one of so many endpoints takes at most the time limit. -/
def longestSweep (config : DeliveryConfig) (timeout : Span) (endpoints : Nat) : Nat :=
  if config.softLimit.nanos = 0 ∨ config.batchSize ≤ 0 then 0
  else config.latestEnd (endpoints * timeout.nanos) 0 (config.batchSize.toNat - 1)

theorem latestEnd_mono (config : DeliveryConfig) {perEntry perEntry' k k' : Nat} (elapsed : Nat)
    (cost : perEntry ≤ perEntry') (bound : k ≤ k') :
    config.latestEnd perEntry elapsed k ≤ config.latestEnd perEntry' elapsed k' := by
  have product : k * perEntry ≤ k' * perEntry' := Nat.mul_le_mul bound cost
  unfold latestEnd
  omega

end DeliveryConfig

/-- A request with its answer, and when the answer was there. -/
structure TimedPost extends Post where
  ended : Span

/-- Subscribers that take their time. How long, and what they answer, may depend on all that was
sent before. -/
structure Subscribers where
  latency : List TimedPost → WebhookEndpoint → OutboxEntry → Span
  answer : List TimedPost → WebhookEndpoint → OutboxEntry → DeliveryResult

namespace Subscribers

/-- The time that a request takes passes before its answer is there. -/
def deliver (subscribers : Subscribers) (endpoint : WebhookEndpoint) (entry : OutboxEntry) :
    Sweep (Site (List TimedPost)) DeliveryResult := fun s =>
  let result := subscribers.answer s.others endpoint entry
  let later := s.wait (subscribers.latency s.others endpoint entry)
  (.ok result, { later with
    others := s.others ++ [{ endpoint, entry, result, ended := later.uptime }] })

/-- The services of a sweep that begins now, at a site where only requests take time. -/
def services (subscribers : Subscribers) (table : OutboxTable) (s : Site (List TimedPost))
    (draw : Int → Int) : DeliveryServices (Site (List TimedPost)) :=
  Site.deliveryServices table s.uptime draw subscribers.deliver

end Subscribers

namespace Site
variable {τ α β : Type}

/-- No time passes from one state of a site to another, and nothing is sent. -/
structure Still (s t : Site τ) : Prop where
  uptime : t.uptime = s.uptime
  others : t.others = s.others

theorem Still.refl (s : Site τ) : Still s s := ⟨rfl, rfl⟩

theorem Still.trans {s t u : Site τ} (first : Still s t) (second : Still t u) : Still s u :=
  ⟨second.uptime.trans first.uptime, second.others.trans first.others⟩

/-- A step that takes no time and sends nothing. -/
def Quiet (w : Sweep (Site τ) α) : Prop := ∀ s, Still s (w.run s).2

theorem quiet_pure (a : α) : Quiet (pure a : Sweep (Site τ) α) := fun s => .refl s

theorem quiet_accessNow (operations : Instant → Access α) :
    Quiet (accessNow operations : Sweep (Site τ) α) := fun _ => ⟨rfl, rfl⟩

/-- A first step decides if the others are quiet. -/
theorem still_bind (w : Sweep (Site τ) α) {f : α → Sweep (Site τ) β} (rest : ∀ a, Quiet (f a))
    (s : Site τ) : Still (w.run s).2 ((w >>= f).run s).2 := by
  rw [Stateful.run_bind]
  rcases w.run s with ⟨_ | a, t⟩
  · exact .refl t
  · exact rest a t

theorem Quiet.bind {w : Sweep (Site τ) α} {f : α → Sweep (Site τ) β} (first : Quiet w)
    (rest : ∀ a, Quiet (f a)) : Quiet (w >>= f) :=
  fun s => (first s).trans (still_bind w rest s)

end Site

namespace Subscribers
variable (subscribers : Subscribers) (table : OutboxTable) (begun s : Site (List TimedPost))
  (draw : Int → Int)

theorem quiet_pendingCount :
    Site.Quiet (subscribers.services table begun draw).pendingCount := fun s => .refl s

theorem quiet_giveBack (entries : List OutboxEntry) :
    Site.Quiet (DeliverySweep.giveBack (subscribers.services table begun draw) entries) := by
  intro s
  cases entries with
  | nil => exact .refl s
  | cons entry rest => exact Site.quiet_accessNow (table.release (entry :: rest)) s

/-- What a sweep does after its attempts takes no time. -/
theorem quiet_writeBack (entries : List OutboxEntry) (transitions : List EntryTransition) :
    Site.Quiet (do
      let applied ← (subscribers.services table begun draw).applyTransitions transitions
      let deferred := entries.drop transitions.length
      DeliverySweep.giveBack (subscribers.services table begun draw) deferred
      let remaining ← (subscribers.services table begun draw).pendingCount
      return DeliverySweep.stats transitions applied deferred.length remaining) :=
  (Site.quiet_accessNow (table.applyTransitions transitions)).bind fun _ =>
    (subscribers.quiet_giveBack table begun draw _).bind fun _ =>
      (subscribers.quiet_pendingCount table begun draw).bind fun _ => Site.quiet_pure _

variable {table s} (sweep : DeliverySweep) {lease : Period} {entries : List OutboxEntry}
  {claimed : OutboxRows}

/-- All that a sweep sends it sends in its attempts at what it fetched. -/
theorem still_of_fetched (spans : sweep.config.effectiveLease.toPeriod? = some lease)
    (claims : (s.store.rows table).fetchDue s.clock sweep.config.batchSize lease s.clock =
      .ok (entries, claimed)) :
    Site.Still
      ((sweep.attempt (subscribers.services table s draw)
        (EndpointRows.listActive s.store.tables.endpoints) entries).run
          (s.withRows table claimed)).2
      ((sweep.run (subscribers.services table s draw)).run s).2 := by
  have leases : (liftM sweep.lease : Sweep (Site (List TimedPost)) Period).run s =
      (.ok lease, s) := by
    rw [Stateful.run_lift, DeliverySweep.lease, spans]
  have reads : (subscribers.services table s draw).now.run s = (.ok s.clock, s) := rfl
  have fetches : ((subscribers.services table s draw).fetchDue s.clock sweep.config.batchSize
      lease).run s = (.ok entries, s.withRows table claimed) :=
    (Site.fetchDue_writes table _ _ _).ok claims
  have lists : (DeliverySweep.endpointsFor (subscribers.services table s draw) entries).run
      (s.withRows table claimed) =
      (.ok (EndpointRows.listActive s.store.tables.endpoints), s.withRows table claimed) := by
    rw [← Site.endpoints_withRows s table claimed]
    rfl
  rw [DeliverySweep.run, Stateful.run_bind_ok leases, Stateful.run_bind_ok reads,
    Stateful.run_bind_ok fetches]
  cases entries with
  | nil =>
    rw [if_pos List.isEmpty_nil]
    exact (subscribers.quiet_pendingCount table s draw).bind (fun _ => Site.quiet_pure _) _
  | cons entry rest =>
    rw [if_neg (by simp), Stateful.run_bind_ok lists]
    exact Site.still_bind _ (subscribers.quiet_writeBack table s draw _) _

/-- A sweep that cannot fetch sends nothing. -/
theorem still_of_unfetched (refused : ∀ lease entries claimed,
      sweep.config.effectiveLease.toPeriod? = some lease →
      (s.store.rows table).fetchDue s.clock sweep.config.batchSize lease s.clock ≠
        .ok (entries, claimed)) :
    ((sweep.run (subscribers.services table s draw)).run s).2 = s := by
  have reads : (subscribers.services table s draw).now.run s = (.ok s.clock, s) := rfl
  rw [DeliverySweep.run]
  cases spans : sweep.config.effectiveLease.toPeriod? with
  | none =>
    have fails : ∃ e, (liftM sweep.lease : Sweep (Site (List TimedPost)) Period).run s =
        (.error e, s) := ⟨_, by rw [Stateful.run_lift, DeliverySweep.lease, spans]⟩
    obtain ⟨e, fails⟩ := fails
    rw [Stateful.run_bind_error fails]
  | some lease =>
    have leases : (liftM sweep.lease : Sweep (Site (List TimedPost)) Period).run s =
        (.ok lease, s) := by
      rw [Stateful.run_lift, DeliverySweep.lease, spans]
    rw [Stateful.run_bind_ok leases, Stateful.run_bind_ok reads]
    rcases claims : (s.store.rows table).fetchDue s.clock sweep.config.batchSize lease s.clock with
      e | ⟨entries, claimed⟩
    · have fails : ((subscribers.services table s draw).fetchDue s.clock sweep.config.batchSize
          lease).run s = (.error e, s) := (Site.fetchDue_writes table _ _ _).error claims
      rw [Stateful.run_bind_error fails]
    · exact absurd claims (refused lease entries claimed spans)

/-- No request takes longer than a time limit. -/
def Within (subscribers : Subscribers) (timeout : Span) : Prop :=
  ∀ posts endpoint entry, (subscribers.latency posts endpoint entry).nanos ≤ timeout.nanos

variable {subscribers} {timeout : Span} (table) (entry : OutboxEntry)

/-- The requests for one entry take at most the time limit each. -/
theorem failures_timed (within : subscribers.Within timeout) (endpoints : List WebhookEndpoint)
    (s : Site (List TimedPost)) :
    ∃ errors posts s',
      (DeliverySweep.failures (subscribers.services table begun draw) entry endpoints).run s =
        (.ok errors, s') ∧
      s'.others = s.others ++ posts ∧ s.uptime.nanos ≤ s'.uptime.nanos ∧
      s'.uptime.nanos ≤ s.uptime.nanos + endpoints.length * timeout.nanos ∧
      ∀ post ∈ posts, post.ended.nanos ≤ s'.uptime.nanos := by
  induction endpoints generalizing s with
  | nil =>
    exact ⟨[], [], s, rfl, (List.append_nil _).symm, Nat.le_refl _, Nat.le_add_right _ _,
      List.forall_mem_nil _⟩
  | cons endpoint rest ih =>
    have bound := within s.others endpoint entry
    obtain ⟨result, post, sent, delivered, atEnd, passed⟩ : ∃ result post sent,
        ((subscribers.services table begun draw).deliver endpoint entry).run s = (.ok result, sent) ∧
        post.ended = sent.uptime ∧ sent.others = s.others ++ [post] ∧
        sent.uptime.nanos = s.uptime.nanos + (subscribers.latency s.others endpoint entry).nanos :=
      ⟨_, _, _, rfl, rfl, rfl, rfl⟩
    obtain ⟨errors, posts, s', others, sentAll, later, limit, ended⟩ := ih sent
    refine ⟨_, post :: posts, s', by
      rw [DeliverySweep.failures, Stateful.run_bind_ok delivered, Stateful.run_bind_ok others,
        Stateful.run_pure], ?_, by omega, ?_, ?_⟩
    · rw [sentAll, passed.1, List.append_assoc, List.singleton_append]
    · rw [List.length_cons, Nat.succ_mul]
      omega
    · refine List.forall_mem_cons.mpr ⟨?_, ended⟩
      rw [atEnd]
      exact later

/-- An attempt takes at most the time limit for each of the endpoints. -/
theorem deliverEntry_timed (within : subscribers.Within timeout) (endpoints : List WebhookEndpoint)
    (s : Site (List TimedPost)) :
    ∃ error posts s',
      (DeliverySweep.deliverEntry (subscribers.services table begun draw) endpoints entry).run s =
        (.ok error, s') ∧
      s'.others = s.others ++ posts ∧ s.uptime.nanos ≤ s'.uptime.nanos ∧
      s'.uptime.nanos ≤ s.uptime.nanos + endpoints.length * timeout.nanos ∧
      ∀ post ∈ posts, post.ended.nanos ≤ s'.uptime.nanos := by
  obtain ⟨errors, posts, s', run, sent, later, limit, ended⟩ := failures_timed table begun
    draw entry within (endpoints.filter (·.subscribesTo entry.eventType)) s
  have fewer : (endpoints.filter (·.subscribesTo entry.eventType)).length * timeout.nanos ≤
      endpoints.length * timeout.nanos := Nat.mul_le_mul_right _ (List.length_filter_le _ _)
  refine ⟨_, posts, s', by
    rw [DeliverySweep.deliverEntry, Stateful.run_bind_ok run, Stateful.run_pure], sent, later, by omega,
    ended⟩

/-- Every request is for an entry that was begun in time, at the latest when all entries before it
had taken as long as they can. -/
theorem attempt_timed (within : subscribers.Within timeout) (endpoints : List WebhookEndpoint)
    (entries : List OutboxEntry) (s : Site (List TimedPost))
    (since : begun.uptime.nanos ≤ s.uptime.nanos) :
    ∀ post ∈ ((sweep.attempt (subscribers.services table begun draw) endpoints entries).run s).2.others,
      post ∈ s.others ∨ 0 < sweep.config.softLimit.nanos ∧ ∃ k < entries.length,
        post.ended.nanos ≤ begun.uptime.nanos + sweep.config.latestEnd
          (endpoints.length * timeout.nanos) (s.uptime.nanos - begun.uptime.nanos) k := by
  induction entries generalizing s with
  | nil => exact fun post member => .inl member
  | cons entry rest ih =>
    have looks : (subscribers.services table begun draw).stopwatch.run s =
        (.ok ⟨s.uptime.nanos - begun.uptime.nanos⟩, s) := rfl
    rw [DeliverySweep.attempt, Stateful.run_bind_ok looks]
    by_cases late : sweep.config.softLimit.nanos ≤ s.uptime.nanos - begun.uptime.nanos
    · rw [if_pos late]
      exact fun post member => .inl member
    · obtain ⟨error, posts, s', run, sent, later, limit, ended⟩ := deliverEntry_timed
        table begun draw entry within endpoints s
      have reads : (subscribers.services table begun draw).now.run s' = (.ok s'.clock, s') := rfl
      have draws : (subscribers.services table begun draw).draw.run s' = (.ok draw, s') := rfl
      rw [if_neg late, Stateful.run_bind_ok run, Stateful.run_bind_ok reads,
        Stateful.run_bind_ok draws]
      -- those of this entry
      have here : ∀ post ∈ s'.others, post ∈ s.others ∨ 0 < sweep.config.softLimit.nanos ∧
          ∃ k < (entry :: rest).length, post.ended.nanos ≤ begun.uptime.nanos +
            sweep.config.latestEnd (endpoints.length * timeout.nanos)
              (s.uptime.nanos - begun.uptime.nanos) k := by
        intro post member
        rw [sent] at member
        rcases List.mem_append.mp member with old | new
        · exact .inl old
        · have bound := ended post new
          refine .inr ⟨by omega, 0, Nat.succ_pos _, ?_⟩
          rw [DeliveryConfig.latestEnd, Nat.zero_mul]
          omega
      cases made : sweep.policy.transition draw entry error s'.clock with
      | error fault => exact here
      | ok t =>
        intro post member
        have inRest : post ∈ ((sweep.attempt (subscribers.services table begun draw) endpoints
            rest).run s').2.others := by
          have kept := (Site.still_bind (sweep.attempt (subscribers.services table begun draw)
            endpoints rest) (fun more => Site.quiet_pure (t :: more)) s').others
          rw [← kept]
          exact member
        rcases ih s' (by omega) post inRest with earlier | ⟨positive, k, bound, atMost⟩
        · exact here post earlier
        · refine .inr ⟨positive, k + 1, Nat.succ_lt_succ bound, ?_⟩
          rw [DeliveryConfig.latestEnd] at atMost ⊢
          rw [Nat.succ_mul]
          omega

/-- No request of a sweep ends later than the longest sweep does. -/
theorem sweep_timed (within : subscribers.Within timeout) (fresh : s.others = []) {active : Nat}
    (few : s.store.tables.endpoints.countP (·.isActive) ≤ active) :
    ∀ post ∈ ((sweep.run (subscribers.services table s draw)).run s).2.others,
      post.ended.nanos ≤ s.uptime.nanos + sweep.config.longestSweep timeout active := by
  intro post member
  by_cases fetches : ∃ lease entries claimed,
      sweep.config.effectiveLease.toPeriod? = some lease ∧
      (s.store.rows table).fetchDue s.clock sweep.config.batchSize lease s.clock =
        .ok (entries, claimed)
  · obtain ⟨lease, entries, claimed, spans, claims⟩ := fetches
    rw [(still_of_fetched subscribers draw sweep spans claims).others] at member
    rcases attempt_timed table s draw sweep within _ entries (s.withRows table claimed)
        (Nat.le_refl s.uptime.nanos) post member with
      before | ⟨positive, k, bound, atMost⟩
    · have none : (s.withRows table claimed).others = [] := fresh
      rw [none] at before
      cases before
    · obtain ⟨_, _, ⟨nonneg, _, _, _⟩, rfl, _⟩ := OutboxRows.fetchDue_eq_ok_iff.mp claims
      have size : k < sweep.config.batchSize.toNat :=
        Nat.lt_of_lt_of_le bound (List.length_take_le _ _)
      have fewer : (EndpointRows.listActive s.store.tables.endpoints).length ≤ active := by
        rw [(EndpointRows.listActive_perm _).length_eq, ← List.countP_eq_length_filter]
        exact few
      have longest := sweep.config.latestEnd_mono 0 (Nat.mul_le_mul_right timeout.nanos fewer)
        (by omega : k ≤ sweep.config.batchSize.toNat - 1)
      have elapsed : (s.withRows table claimed).uptime.nanos - s.uptime.nanos = 0 :=
        Nat.sub_self _
      rw [elapsed] at atMost
      rw [DeliveryConfig.longestSweep, if_neg (by omega)]
      omega
  · rw [still_of_unfetched subscribers draw sweep fun lease entries claimed spans claims =>
      fetches ⟨lease, entries, claimed, spans, claims⟩, fresh] at member
    cases member

end Subscribers

end OutboxRelay
