import OutboxRelay.Proofs.FetchRelease
import OutboxRelay.Proofs.SweepRun

namespace OutboxRelay

namespace Instant

/-- A table cuts off less than a microsecond. -/
theorem lt_stored (t : Instant) : t.toNanos < t.stored.toNanos + 1000 := by
  rw [stored_eq, toNanos_ofNanos, storedNanos]
  have parts := Int.mul_tdiv_add_tmod (t.toNanos - storageEpochNanos) 1000
  have rest := Int.tmod_lt_of_pos (t.toNanos - storageEpochNanos) (by decide : (0 : Int) < 1000)
  omega

/-- A second leads out of any leap second, which lies over the second after it. -/
theorem toNanos_of_long_add? {t sum : Instant} {p : Period} (long : 1000000000 ≤ p.nanos)
    (added : t.add? p = some sum) :
    sum.toNanos = t.toNanos + p.nanos - if t.nanos < nanosPerSecond then 0 else 1000000000 := by
  have steps : 0 < p.nanos.tdiv 1000000000 := by
    rw [Int.tdiv_eq_ediv_of_nonneg (by omega)]
    omega
  simp only [add?, if_pos (Or.inl steps)] at added
  obtain ⟨_, isSum⟩ := Option.ite_none_right_eq_some.mp added
  rw [← Option.some.inj isSum]
  split <;> rw [toNanos_ofNanos] <;> omega

end Instant

/-- The nanoseconds that a claim must last: the configured lease, but at least the soft limit and
the time of one request. No sum is cut off. -/
def DeliveryConfig.leaseNanos (config : DeliveryConfig) : Nat :=
  max config.claimLease.nanos (config.softLimit.nanos + 30 * 1000000000)

/-- A lease is as long as it must be whenever it can be a period. -/
theorem DeliveryConfig.lease_exact (config : DeliveryConfig) :
    config.effectiveLease.toPeriod? =
      if (config.leaseNanos : Int) ≤ Period.limitNanos then some ⟨config.leaseNanos⟩ else none := by
  -- a sum that is cut off is too long for a period, like the sum itself
  have longest : Period.limitNanos < Span.limitNanos := by decide
  have least : defaultRequestTimeout.nanos = 30 * 1000000000 := rfl
  rcases Nat.le_total (config.softLimit.nanos + 30 * 1000000000) Span.limitNanos with fits | long
  · have exact : config.effectiveLease.nanos = config.leaseNanos := by
      unfold effectiveLease Span.max Span.saturatingAdd leaseNanos
      rw [least]
      split <;> simp only at * <;> omega
    rw [Span.toPeriod?, exact]
  · have tooLong : Period.limitNanos < config.effectiveLease.nanos := by
      unfold effectiveLease Span.max Span.saturatingAdd
      rw [least]
      split <;> simp only at * <;> omega
    have tooLong' : Period.limitNanos < config.leaseNanos := by
      unfold leaseNanos
      omega
    rw [Span.toPeriod?, if_neg (by omega), if_neg (by omega)]

namespace DeliverySweep
variable {σ : Type} {services : DeliveryServices σ} {entries : List OutboxEntry} {s left : σ}

theorem giveBack_of_ne_nil (some : entries ≠ []) (s : σ) :
    (giveBack services entries).run s = (.ok (), ((services.release entries).run s).2) := by
  have notEmpty : ¬entries.isEmpty = true := fun empty => some (List.isEmpty_iff.mp empty)
  change (if entries.isEmpty then ((.ok (), s) : Except Error Unit × σ)
    else (.ok (), ((services.release entries).run s).2)) = _
  rw [if_neg notEmpty]

/-- Whatever comes of giving the entries back, the error is that of the lookup. -/
theorem endpointsFor_error {e : Error} (fails : services.listActive.run s = (.error e, left)) :
    (endpointsFor services entries).run s =
      (.error e, ((giveBack services entries).run left).2) := by
  change endpointsFor services entries s = _
  unfold endpointsFor
  rw [fails]
  rfl

end DeliverySweep

namespace Circumstances
variable {c : Circumstances} {table : OutboxTable} {sweep : DeliverySweep} {s : Site Course}

/-- The end that the claim of a sweep must have: the clock and the lease together, if the lease can
be a period and the sum is in the calendar. -/
def leaseEnd? (c : Circumstances) (config : DeliveryConfig) : Option Instant :=
  if (config.leaseNanos : Int) ≤ Period.limitNanos then (c.clock 0).add? ⟨config.leaseNanos⟩
  else none

theorem claimEnd?_eq (c : Circumstances) (config : DeliveryConfig) :
    c.claimEnd? config = c.leaseEnd? config := by
  rw [claimEnd?, config.lease_exact, leaseEnd?]
  split <;> rfl

/-- The site between the fetch and the look for the endpoints: `entries` are claimed. -/
def claimed (c : Circumstances) (table : OutboxTable) (s : Site Course) (claimEnd : Instant)
    (entries : List OutboxEntry) : Site Course :=
  (c.begun s).withRows table
    ((s.store.rows table).held entries [] claimEnd.stored (c.clock 0) (c.clock 0))

section
variable {lookup : Sweep (Site Course) (List WebhookEndpoint)}
  {release : List OutboxEntry → Sweep (Site Course) Nat} {lease : Period} {claimEnd : Instant}
  {entries : List OutboxEntry}

theorem failing_fetchDue_run
    (fetched : (s.store.rows table).fetchDue (c.clock 0) sweep.config.batchSize lease (c.clock 0) =
      .ok (entries, (s.store.rows table).held entries [] claimEnd.stored (c.clock 0) (c.clock 0))) :
    ((c.failing table lookup release).fetchDue (c.clock 0) sweep.config.batchSize lease).run
        (c.begun s) =
      (.ok entries, c.claimed table s claimEnd entries) :=
  (Site.fetchDue_writes table _ _ _).ok fetched

/-- A sweep that claims nothing has nothing to look for. -/
theorem run_idle (fresh : s.others = {})
    (spans : sweep.config.effectiveLease.toPeriod? = some lease)
    (fetched : (s.store.rows table).fetchDue (c.clock 0) sweep.config.batchSize lease (c.clock 0) =
      .ok ([], (s.store.rows table).held [] [] claimEnd.stored (c.clock 0) (c.clock 0))) :
    ∃ stats s', (sweep.run (c.failing table lookup release)).run s = (.ok stats, s') ∧
      s'.store = s.store ∧ s'.others.posts = [] := by
  have kept : (s.store.rows table).held [] [] claimEnd.stored (c.clock 0) (c.clock 0) =
      s.store.rows table := List.map_id _
  have same : c.claimed table s claimEnd [] = c.begun s := by
    rw [claimed, kept]
    exact (c.begun s).withRows_rows table
  refine ⟨DeliverySweep.stats [] [] 0 (OutboxRows.pendingCount (s.store.rows table)), c.begun s, ?_,
    rfl, rfl⟩
  rw [DeliverySweep.run, Stateful.run_bind_ok (lease_run_some sweep spans s),
    Stateful.run_bind_ok (failing_now_run table lookup release fresh),
    Stateful.run_bind_ok (failing_fetchDue_run fetched), if_pos List.isEmpty_nil, same]
  rfl

/-- A sweep whose lookup fails ends with that error, once it has tried to give its entries back. -/
theorem run_lookup_failed (fresh : s.others = {})
    (spans : sweep.config.effectiveLease.toPeriod? = some lease)
    (fetched : (s.store.rows table).fetchDue (c.clock 0) sweep.config.batchSize lease (c.clock 0) =
      .ok (entries, (s.store.rows table).held entries [] claimEnd.stored (c.clock 0) (c.clock 0)))
    (some : entries ≠ []) {e : Error} {left : Site Course}
    (fails : lookup.run (c.claimed table s claimEnd entries) = (.error e, left)) :
    (sweep.run (c.failing table lookup release)).run s =
      (.error e, ((release entries).run left).2) := by
  have notEmpty : ¬entries.isEmpty = true := fun empty => some (List.isEmpty_iff.mp empty)
  have looks : (DeliverySweep.endpointsFor (c.failing table lookup release) entries).run
      (c.claimed table s claimEnd entries) = (.error e, ((release entries).run left).2) := by
    rw [DeliverySweep.endpointsFor_error fails, DeliverySweep.giveBack_of_ne_nil some]
    rfl
  rw [DeliverySweep.run, Stateful.run_bind_ok (lease_run_some sweep spans s),
    Stateful.run_bind_ok (failing_now_run table lookup release fresh),
    Stateful.run_bind_ok (failing_fetchDue_run fetched), if_neg notEmpty]
  exact Stateful.run_bind_error looks

end

/-- A sweep claims `entries` until `claimEnd`, the first that are due. If there are none it is done.
If the look for the endpoints fails it ends with that error, and every row is as before but for the
time of its last change, unless the entries cannot be given back: then they stay claimed. -/
structure Retracts (c : Circumstances) (sweep : DeliverySweep) (table : OutboxTable)
    (s : Site Course) (claimEnd : Instant) (entries : List OutboxEntry) : Prop where
  first : (s.store.rows table).FirstDue (c.clock 0).stored sweep.config.batchSize entries
  idle : entries = [] → ∀ lookup release, ∃ stats s',
    (sweep.run (c.failing table lookup release)).run s = (.ok stats, s') ∧ s'.store = s.store ∧
      s'.others.posts = []
  retracted : entries ≠ [] → ∀ (lookup : Sweep (Site Course) (List WebhookEndpoint)) e left,
    lookup.run (c.claimed table s claimEnd entries) = (.error e, left) →
    left.store.rows table = (c.claimed table s claimEnd entries).store.rows table →
    left.others.posts = [] →
    ∃ s', (sweep.run (c.failing table lookup (c.services table).release)).run s = (.error e, s') ∧
      s'.others.posts = [] ∧
      ∀ time, (s'.store.rows table).map (OutboxEntry.touched time) =
        (s.store.rows table).map (OutboxEntry.touched time)
  stuck : entries ≠ [] → ∀ (lookup : Sweep (Site Course) (List WebhookEndpoint))
    (release : List OutboxEntry → Sweep (Site Course) Nat) e left e' left',
    lookup.run (c.claimed table s claimEnd entries) = (.error e, left) →
    (release entries).run left = (.error e', left') →
    (sweep.run (c.failing table lookup release)).run s = (.error e, left')

theorem retracts {claimEnd : Instant} {lease : Period} {entries : List OutboxEntry}
    (fresh : s.others = {}) (consistent : (s.store.rows table).Consistent)
    (spans : sweep.config.effectiveLease.toPeriod? = some lease)
    (added : (c.clock 0).add? lease = some claimEnd)
    (first : (s.store.rows table).FirstDue (c.clock 0).stored sweep.config.batchSize entries)
    (fetched : (s.store.rows table).fetchDue (c.clock 0) sweep.config.batchSize lease (c.clock 0) =
      .ok (entries, (s.store.rows table).held entries [] claimEnd.stored (c.clock 0) (c.clock 0))) :
    c.Retracts sweep table s claimEnd entries where
  first := first
  idle none lookup release := by
    subst none
    exact run_idle fresh spans fetched
  retracted some lookup e left fails same quiet := by
    have back : ((c.services table).release entries).run left =
        (.ok entries.length, left.withRows table ((s.store.rows table).held entries entries
          claimEnd.stored (c.clock 0) left.clock)) := by
      refine (Site.release_writes table _).ok ?_
      rw [same, claimed, Site.rows_withRows]
      exact consistent.release_held added fetched (List.Subperm.refl _) left.clock
    refine ⟨_, run_lookup_failed fresh spans fetched some fails, ?_⟩
    rw [back]
    refine ⟨quiet, fun time => ?_⟩
    rw [Site.rows_withRows]
    exact OutboxRows.map_touched_held _ (.refl _) _ _ _ _
  stuck some lookup release e left e' left' fails refused := by
    rw [run_lookup_failed fresh spans fetched some fails, refused]

/-- One payload among the first that cannot be read keeps a sweep from claiming anything. -/
theorem run_unreadable {claimEnd : Instant} {entry : OutboxEntry}
    (lookup : Sweep (Site Course) (List WebhookEndpoint))
    (release : List OutboxEntry → Sweep (Site Course) Nat) (fresh : s.others = {})
    (ends : c.claimEnd? sweep.config = some claimEnd) (nonneg : 0 ≤ sweep.config.batchSize)
    (member : entry ∈ ((s.store.rows table).due (c.clock 0)).take sweep.config.batchSize.toNat)
    (unreadable : entry.isReadable = false) :
    (sweep.run (c.failing table lookup release)).run s =
      (.error (.database .unreadable), c.begun s) := by
  obtain ⟨lease, spans, added⟩ := Option.bind_eq_some_iff.mp ends
  rw [DeliverySweep.run, Stateful.run_bind_ok (lease_run_some sweep spans s),
    Stateful.run_bind_ok (failing_now_run table lookup release fresh)]
  exact Stateful.run_bind_error ((Site.fetchDue_writes table _ _ _).error
    (OutboxRows.fetchDue_unreadable added nonneg (Instant.isKnownAt_self (c.clock 0)) member
      unreadable))

/-- A sweep that ends before its first attempt leaves no trace. It may be that its claim would have
no end, or a batch would be less than nothing, or one of its payloads cannot be read, or the look for
the endpoints fails. The end of the claim is the exact sum of the clock and the lease, as the table
keeps times: it cuts off less than a microsecond, and nothing of whole microseconds. -/
theorem early_failure_without_effect (c : Circumstances) (sweep : DeliverySweep)
    (fresh : s.others = {}) (consistent : (s.store.rows table).Consistent) :
    (c.leaseEnd? sweep.config = none → ∀ lookup release, ∃ detail s',
      (sweep.run (c.failing table lookup release)).run s =
        (.error (.config ("claim lease out of range: " ++ detail)), s') ∧ s'.store = s.store ∧
        s'.others.posts = []) ∧
    ∀ claimEnd, c.leaseEnd? sweep.config = some claimEnd →
      (claimEnd.toNanos = (c.clock 0).toNanos + sweep.config.leaseNanos -
        (if (c.clock 0).nanos < nanosPerSecond then 0 else 1000000000)) ∧
      claimEnd.toNanos < claimEnd.stored.toNanos + 1000 ∧
      ((c.clock 0).nanos < nanosPerSecond → (c.clock 0).nanos % 1000 = 0 →
        sweep.config.claimLease.nanos % 1000 = 0 → sweep.config.softLimit.nanos % 1000 = 0 →
        claimEnd.stored = claimEnd) ∧
      (sweep.config.batchSize < 0 → ∀ lookup release, ∃ s',
        (sweep.run (c.failing table lookup release)).run s =
          (.error (.database .negativeLimit), s') ∧ s'.store = s.store ∧ s'.others.posts = []) ∧
      (0 ≤ sweep.config.batchSize → ∃ entries,
        (s.store.rows table).FirstDue (c.clock 0).stored sweep.config.batchSize entries ∧
        ((∃ entry ∈ entries, entry.isReadable = false) → ∀ lookup release, ∃ s',
          (sweep.run (c.failing table lookup release)).run s =
            (.error (.database .unreadable), s') ∧ s'.store = s.store ∧ s'.others.posts = []) ∧
        ((∀ entry ∈ entries, entry.isReadable = true) →
          c.Retracts sweep table s claimEnd entries)) := by
  constructor
  · intro none lookup release
    exact run_refused table sweep lookup release fresh ((c.claimEnd?_eq _).trans none)
  · intro claimEnd isEnd
    have ends : c.claimEnd? sweep.config = some claimEnd := (c.claimEnd?_eq _).trans isEnd
    obtain ⟨_, added⟩ := Option.ite_none_right_eq_some.mp isEnd
    refine ⟨Instant.toNanos_of_long_add? ?_ added, claimEnd.lt_stored,
      fun ordinary micros leases limits => Instant.micros_of_add? ordinary micros ?_ added,
      fun negative lookup release => ?_, fun nonneg => ⟨_, OutboxRows.firstDue_due _ _ _, ?_, ?_⟩⟩
    · change (1000000000 : Int) ≤ sweep.config.leaseNanos
      unfold DeliveryConfig.leaseNanos
      omega
    · change (sweep.config.leaseNanos : Int) % 1000 = 0
      unfold DeliveryConfig.leaseNanos
      omega
    · exact ⟨_, run_negative table sweep lookup release fresh ends negative, rfl, rfl⟩
    · rintro ⟨entry, member, unreadable⟩ lookup release
      exact ⟨_, run_unreadable lookup release fresh ends nonneg member unreadable, rfl, rfl⟩
    · intro readable
      obtain ⟨lease, spans, added⟩ := Option.bind_eq_some_iff.mp ends
      have fetchable : (s.store.rows table).Fetchable (c.clock 0) sweep.config.batchSize claimEnd
          (c.clock 0) :=
        ⟨nonneg, Instant.isKnownAt_self _, readable, fun _ =>
          Instant.isKnownAt_of_lt (claimEnd?_later ends)⟩
      exact retracts fresh consistent spans added (OutboxRows.firstDue_due _ _ _)
        (fetchable.held added)

/-- The theorem about two events that are claimed when the endpoints cannot be looked up. -/
theorem early_failure_without_effect_two :
    let time : Instant := ⟨1767225600, 0⟩
    let emit : String → Transaction := fun id =>
      ⟨{}, time, .emit ⟨"file", id, "file.stored", none, none⟩⟩
    let s : Site Course :=
      { store := ({} : Store).after [emit "1", emit "2"], clock := time, others := {} }
    let c : Circumstances := ⟨fun _ => time, fun _ => ⟨0⟩, fun _ _ => 0, fun _ _ _ => .success 200⟩
    let unavailable : Error := .internal "endpoint registry unavailable"
    s.others = {} ∧ (s.store.rows .core).Consistent ∧ c.leaseEnd? {} = some ⟨1767225900, 0⟩ ∧
      ∃ entries s', entries.length = 2 ∧
        (s.store.rows .core).FirstDue time.stored 20 entries ∧
        (({} : DeliverySweep).run (c.failing .core (throw unavailable)
          (c.services .core).release)).run s = (.error unavailable, s') ∧
        s'.others.posts = [] ∧
        ∀ time, (s'.store.rows .core).map (OutboxEntry.touched time) =
          (s.store.rows .core).map (OutboxEntry.touched time) := by
  intro time emit s c unavailable
  have consistent : (s.store.rows .core).Consistent := Store.after_consistent _ _
  have ends : c.leaseEnd? {} = some ⟨1767225900, 0⟩ := by decide +kernel
  obtain ⟨_, claims⟩ := early_failure_without_effect (s := s) c {} rfl consistent
  obtain ⟨_, _, _, _, claim⟩ := claims _ ends
  have readable : ∀ row ∈ s.store.rows .core, row.isReadable = true := by decide +kernel
  obtain ⟨entries, isFirst, _, retract⟩ := claim (by decide)
  have retracts := retract fun entry member => by
    obtain ⟨due, all, _, first⟩ := isFirst
    have isDue := all.mem_iff.mp (List.mem_of_mem_take (first ▸ member))
    exact readable entry (List.mem_filter.mp isDue).1
  have two : entries.length = 2 := by
    obtain ⟨due, all, _, first⟩ := retracts.first
    have both : ((s.store.rows .core).filter (·.isDue time.stored)).length = 2 := by
      decide +kernel
    rw [first, List.length_take, all.length_eq]
    exact congrArg (min 20) both
  have some : entries ≠ [] := fun none => by cases none ▸ two
  obtain ⟨s', run, quiet, same⟩ := retracts.retracted some (throw unavailable) unavailable
    (c.claimed .core s ⟨1767225900, 0⟩ entries) rfl rfl rfl
  exact ⟨rfl, consistent, ends, entries, s', two, retracts.first, run, quiet, same⟩

/-- If the entry cannot be given back either, it keeps the schedule of its claim. The clock is half a
microsecond past the second, and the claim is that much short of five minutes. A batch of less than
nothing is an error of the table. -/
theorem failed_release_keeps_claim :
    let now : Instant := ⟨1767225600, 500⟩
    let s : Site Course :=
      { store := ({} : Store).after [⟨{}, now, .emit ⟨"file", "1", "file.stored", none, none⟩⟩]
        clock := now
        others := {} }
    let c : Circumstances := ⟨fun _ => now, fun _ => ⟨0⟩, fun _ _ => 0, fun _ _ _ => .success 200⟩
    let services := c.failing .core (throw (.internal "list_active unavailable")) fun _ =>
      throw (.internal "release unavailable")
    let ended := (({} : DeliverySweep).run services).run s
    ended.1 = .error (.internal "list_active unavailable") ∧
      (s.store.rows .core).map (·.nextAttemptAt) = [some ⟨1767225600, 0⟩] ∧
      (ended.2.store.rows .core).map (·.nextAttemptAt) = [some ⟨1767225900, 0⟩] ∧
      c.leaseEnd? {} = some ⟨1767225900, 500⟩ ∧
      ((({ config := { batchSize := -1 } } : DeliverySweep).run services).run s).1 =
        .error (.database .negativeLimit) := by
  decide +kernel

end Circumstances

end OutboxRelay
