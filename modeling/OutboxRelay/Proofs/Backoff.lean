import OutboxRelay.Proofs.AttemptAccount
import OutboxRelay.Proofs.DefaultRetry
import OutboxRelay.Proofs.LateRelease

namespace OutboxRelay

namespace Instant

/-- A time in whole microseconds, as clocks and tables have it. -/
def Whole (t : Instant) : Prop := t.stored = t

instance (t : Instant) : Decidable t.Whole := inferInstanceAs (Decidable (t.stored = t))

variable {t : Instant} {n : Int}

theorem toNanos_stored (t : Instant) : t.stored.toNanos = storedNanos t.toNanos := by
  rw [stored_eq, toNanos_ofNanos]

theorem Whole.storedNanos (whole : t.Whole) : storedNanos t.toNanos = t.toNanos := by
  rw [← toNanos_stored, whole]

theorem Whole.ordinary (whole : t.Whole) : t.nanos < nanosPerSecond :=
  whole ▸ t.stored_ordinary

theorem storedNanos_add (whole : storedNanos n = n) (m : Int) :
    storedNanos (n + 1000 * m) = n + 1000 * m := by
  unfold Instant.storedNanos at *
  have shifted : n + 1000 * m - storageEpochNanos = 1000 * ((n - storageEpochNanos).tdiv 1000 + m) := by
    omega
  rw [shifted, Int.mul_tdiv_cancel_left _ (by decide)]
  omega

/-- Storing a time does not take it back before a whole one. -/
theorem le_toNanos_stored (whole : storedNanos n = n) (bound : n ≤ t.toNanos) :
    n ≤ t.stored.toNanos := by
  rw [toNanos_stored, ← whole]
  exact storedNanos_mono bound

end Instant

/-- `t` is what an attempt at the entry comes to by the default retry policy, when it is made at
the time `now`. -/
def OutboxEntry.AttemptedAt (entry : OutboxEntry) (t : EntryTransition) (now : Instant) : Prop :=
  ∃ (σ : Type) (services : DeliveryServices σ) (endpoints : List WebhookEndpoint) (s s' : σ)
    (error : Option String) (draw : Int → Int),
    (DeliverySweep.deliverEntry services endpoints entry).run s = (.ok error, s') ∧
      ({} : RetryPolicy).transition draw entry error now = .ok t

theorem OutboxEntry.AttemptedAt.attempted {entry : OutboxEntry} {t : EntryTransition}
    {now : Instant} (attempted : entry.AttemptedAt t now) : entry.Attempted t := by
  obtain ⟨σ, services, endpoints, s, s', error, draw, run, made⟩ := attempted
  exact ⟨σ, services, endpoints, s, s', error, {}, draw, now, run, made⟩

/-- A failure that was computed at some time in whole microseconds puts the next attempt off up to
`reopens`, in nanoseconds. -/
def EntryTransition.DelaysTo (t : EntryTransition) (reopens : Int) : Prop :=
  ∃ entry now, OutboxEntry.AttemptedAt entry t now ∧ now.Whole ∧ t.status ≠ .delivered ∧
    reopens = now.toNanos + retrySeconds t.attempts.toNat * nanosPerSecond

namespace EntryTransition.DelaysTo
variable {t : EntryTransition} {reopens : Int}

theorem whole (delays : t.DelaysTo reopens) : Instant.storedNanos reopens = reopens := by
  obtain ⟨_, now, _, whole, _, rfl⟩ := delays
  have micros : retrySeconds t.attempts.toNat * (nanosPerSecond : Int) =
      1000 * (retrySeconds t.attempts.toNat * 1000000) := by
    simp only [nanosPerSecond]
    omega
  rw [micros]
  exact Instant.storedNanos_add whole.storedNanos _

/-- A failure that is not the last keeps to the delay that it sets. -/
theorem next (delays : t.DelaysTo reopens) (retried : t.status = .pending)
    (nonneg : 0 ≤ t.previousAttempts) :
    ∃ next, t.nextAttemptAt = some next ∧ reopens ≤ next.stored.toNanos := by
  have isWhole := delays.whole
  obtain ⟨entry, now, attempted, whole, _, rfl⟩ := delays
  have counted := attempted.attempted.counted
  have previous := attempted.attempted.previousAttempts
  obtain ⟨_, _, _, _, _, _, _, _, made⟩ := attempted
  obtain ⟨secs, next, low, _, added, scheduled⟩ :=
    RetryPolicy.transition_default_retry (by omega) made retried
  refine ⟨next, scheduled, Instant.le_toNanos_stored isWhole ?_⟩
  have sum := Instant.toNanos_of_add? whole.ordinary added
  rw [show entry.attempts + 1 = t.attempts by omega] at low
  simp only [Period.ofSeconds] at sum
  simp only [nanosPerSecond]
  omega

end EntryTransition.DelaysTo

/-- A copy of an entry, and the time for which it was fetched. -/
structure TimedCopy where
  copy : OutboxEntry
  time : Instant

/-- What a fetch returned from an outbox table, with the time for which it did. -/
def Transaction.timedCopies (x : Transaction) (table : OutboxTable) (reply : Except Error Reply) :
    List TimedCopy :=
  match x.call with
  | .fetchDue time _ _ => (x.fetched table reply).map (⟨·, time⟩)
  | _ => []

/-- A call as sweeps with the default retry policy make it, on a clock in whole microseconds that
does not run back between a fetch and the attempts that follow it. Anyone may call anything else,
but nobody makes failed entries pending again. -/
structure Transaction.Paced (x : Transaction) (table : OutboxTable) (fetched : List TimedCopy) :
    Prop where
  fetches : ∀ time limit lease, x.db.outbox.table = table → x.call = .fetchDue time limit lease →
    time.Whole ∧ ∃ config : DeliveryConfig, config.effectiveLease.toPeriod? = some lease
  releases : ∀ entries, x.db.outbox.table = table → x.call = .release entries →
    ∀ entry ∈ entries, ∃ time, ⟨entry, time⟩ ∈ fetched
  settles : ∀ transitions, x.db.outbox.table = table → x.call = .applyTransitions transitions →
    ∀ t ∈ transitions, ∃ f ∈ fetched, ∃ now, f.copy.AttemptedAt t now ∧ now.Whole ∧
      f.time.le now = true
  renewsNone : ∀ ids due, x.db.outbox.table = table → x.call ≠ .requeueFailed ids due

/-- How the attempts at an entry that landed follow each other: they are numbered, each was made on a
copy, and no copy that counts a failure was fetched before its delay was over, or tells of an earlier
schedule. -/
structure EntryTransition.Follow (log : List EntryTransition) (id : Uuid)
    (fetched : List TimedCopy) : Prop where
  times : ∀ f ∈ fetched, f.time.Whole
  raised : ∀ (i : Nat) t, log[i]? = some t → t.previousAttempts = i ∧ t.attempts = i + 1
  computed : ∀ t ∈ log, ∃ f ∈ fetched, f.copy.Attempted t
  awaited : ∀ t ∈ log, ∀ reopens, t.DelaysTo reopens → ∀ f ∈ fetched, f.copy.id = id →
    t.attempts ≤ f.copy.attempts → reopens ≤ f.time.toNanos ∧
      ∀ next, f.copy.nextAttemptAt = some next → reopens ≤ next.toNanos

/-- There is nothing to keep to while no attempt has landed. -/
theorem EntryTransition.Follow.start {id : Uuid} {fetched : List TimedCopy}
    (times : ∀ f ∈ fetched, f.time.Whole) : Follow [] id fetched where
  times := times
  raised _ _ landed := absurd landed (Option.not_mem_none _)
  computed := List.forall_mem_nil _
  awaited := List.forall_mem_nil _

/-- New copies are fine if they come after all delays that they count. -/
theorem EntryTransition.Follow.hold {log : List EntryTransition} {id : Uuid}
    {fetched new : List TimedCopy} (follow : Follow log id fetched)
    (times : ∀ f ∈ new, f.time.Whole)
    (late : ∀ f ∈ new, f.copy.id = id → ∀ t ∈ log, ∀ reopens, t.DelaysTo reopens →
      reopens ≤ f.time.toNanos ∧ ∀ next, f.copy.nextAttemptAt = some next → reopens ≤ next.toNanos) :
    Follow log id (fetched ++ new) where
  times := List.forall_mem_append.mpr ⟨follow.times, times⟩
  raised := follow.raised
  computed t landed := by
    obtain ⟨f, held, came⟩ := follow.computed t landed
    exact ⟨f, List.mem_append_left _ held, came⟩
  awaited t landed reopens delays f held same more := by
    rcases List.mem_append.mp held with old | among
    · exact follow.awaited t landed reopens delays f old same more
    · exact late f among same t landed reopens delays

/-- A row that keeps to the delays of the attempts at its entry that landed. -/
structure OutboxEntry.Spaced (row : OutboxEntry) (log : List EntryTransition)
    (fetched : List TimedCopy) : Prop where
  follow : EntryTransition.Follow log row.id fetched
  accounts : row.Accounts log
  bounded : ∀ f ∈ fetched, f.copy.id = row.id → f.copy.attempts ≤ row.attempts
  scheduled : ∀ t ∈ log, ∀ reopens, t.DelaysTo reopens →
    ∀ next, row.nextAttemptAt = some next → reopens ≤ next.toNanos

namespace OutboxEntry.Spaced
variable {row row' : OutboxEntry} {log : List EntryTransition} {fetched : List TimedCopy}
  {clock : Instant} {f : TimedCopy}

/-- Another schedule is fine if it keeps to the delays. -/
theorem reschedule {schedule : Option Instant} (spaced : row.Spaced log fetched)
    (late : ∀ t ∈ log, ∀ reopens, t.DelaysTo reopens →
      ∀ next, schedule = some next → reopens ≤ next.toNanos) (clock : Instant) :
    ({ row with nextAttemptAt := schedule, updatedAt := clock } : OutboxEntry).Spaced log fetched :=
  { spaced with
    accounts := spaced.accounts.congr rfl rfl rfl
    scheduled := late }

/-- A claim of a row that is due ends later than its delays do. -/
theorem claim {time claimEnd : Instant} {lease : Period} (spaced : row.Spaced log fetched)
    (due : row.isDue time.stored = true) (whole : time.Whole) (nonneg : 0 ≤ lease.nanos)
    (ends : time.add? lease = some claimEnd) (ordinary : ∀ next, row.nextAttemptAt = some next →
      next.nanos < nanosPerSecond) :
    (OutboxRows.claim claimEnd clock row).Spaced log fetched := by
  have reopened : ∀ t ∈ log, ∀ reopens, t.DelaysTo reopens →
      ∀ next, some claimEnd.stored = some next → reopens ≤ next.toNanos := by
    rintro t landed reopens delays _ ⟨⟩
    obtain ⟨next, scheduled⟩ := OutboxEntry.scheduled_of_isDue due
    have begun := OutboxRows.next_le_of_isDue due scheduled
    rw [whole, Instant.le_iff_toNanos (ordinary next scheduled) whole.ordinary] at begun
    have late := spaced.scheduled t landed reopens delays next scheduled
    have sum := Instant.toNanos_of_add? whole.ordinary ends
    exact Instant.le_toNanos_stored delays.whole (by omega)
  exact spaced.reschedule reopened clock

/-- A copy that is up to date was fetched after all delays of before were over. -/
theorem reopened_of_untouched {t : EntryTransition} {reopens : Int}
    (spaced : row.Spaced log fetched) (held : f ∈ fetched)
    (untouched : OutboxRows.isUntouched f.copy.id f.copy.attempts row = true) (landed : t ∈ log)
    (delays : t.DelaysTo reopens) : reopens ≤ f.time.toNanos ∧
      ∀ next, f.copy.nextAttemptAt = some next → reopens ≤ next.toNanos := by
  obtain ⟨same, _, attempts⟩ := OutboxRows.isUntouched_iff.mp untouched
  obtain ⟨i, inLog, at_i⟩ := List.mem_iff_getElem.mp landed
  obtain ⟨_, raised⟩ := spaced.follow.raised i t (at_i ▸ List.getElem?_eq_getElem inLog)
  have counted := spaced.accounts.counted
  exact spaced.follow.awaited t landed reopens delays f held same.symm (by omega)

/-- A copy that goes back to a row that it still tells of keeps to the delays. -/
theorem restore (spaced : row.Spaced log fetched) (held : f ∈ fetched)
    (untouched : OutboxRows.isUntouched f.copy.id f.copy.attempts row = true) :
    (OutboxRows.restore f.copy clock row).Spaced log fetched := by
  refine spaced.reschedule ?_ clock
  intro t landed reopens delays stored scheduled
  obtain ⟨next, isNext, rfl⟩ := Option.map_eq_some_iff.mp scheduled
  obtain ⟨_, late⟩ := spaced.reopened_of_untouched held untouched landed delays
  exact Instant.le_toNanos_stored delays.whole (late next isNext)

/-- An attempt that lands starts a delay of its own, after those of before. -/
theorem settle {t : EntryTransition} {now : Instant} (spaced : row.Spaced log fetched)
    (held : f ∈ fetched) (attempted : f.copy.AttemptedAt t now) (whole : now.Whole)
    (after : f.time.le now = true) (limit : row.maxAttempts = f.copy.maxAttempts)
    (untouched : OutboxRows.isUntouched t.id t.previousAttempts row = true) (clock : Instant) :
    (OutboxRows.settle t clock row).Spaced (log ++ [t]) fetched := by
  have came := attempted.attempted
  have counts := came.counted
  obtain ⟨_, pending, attempts⟩ := OutboxRows.isUntouched_iff.mp untouched
  have account := spaced.accounts.settle came limit clock untouched
  have nonneg : 0 ≤ t.previousAttempts := by
    have counted := spaced.accounts.counted
    omega
  have current := untouched
  rw [came.id, came.previousAttempts] at current
  refine { follow := ?_, accounts := account, bounded := ?_, scheduled := ?_ }
  · refine { times := spaced.follow.times, raised := account.raised, computed := ?_, awaited := ?_ }
    · exact List.forall_mem_append.mpr ⟨spaced.follow.computed,
        List.forall_mem_singleton.mpr ⟨f, held, came⟩⟩
    · refine List.forall_mem_append.mpr ⟨spaced.follow.awaited, List.forall_mem_singleton.mpr ?_⟩
      -- nobody has a copy yet that counts the new attempt
      intro _ _ f' held' same more
      have bound := spaced.bounded f' held' same
      omega
  · intro f' held' same
    have bound := spaced.bounded f' held' same
    change f'.copy.attempts ≤ t.attempts
    omega
  · intro t' landed reopens delays stored scheduled
    obtain ⟨next, isNext, rfl⟩ := Option.map_eq_some_iff.mp scheduled
    have retried : t.status = .pending := by
      obtain ⟨_, _, _, _, _, _, _, _, made⟩ := attempted
      rcases RetryPolicy.transition_cases made with ⟨_, rfl⟩ | ⟨_, _, _, rfl⟩ |
        ⟨_, _, _, _, _, _, _, rfl⟩
      · cases isNext
      · cases isNext
      · rfl
    rcases List.mem_append.mp landed with earlier | isLast
    · have own : t.DelaysTo (now.toNanos + retrySeconds t.attempts.toNat * nanosPerSecond) :=
        ⟨f.copy, now, attempted, whole, by rw [retried]; exact nofun, rfl⟩
      obtain ⟨next', isNext', late⟩ := own.next retried nonneg
      cases isNext.symm.trans isNext'
      obtain ⟨begun, _⟩ := spaced.reopened_of_untouched held current earlier delays
      rw [Instant.le_iff_toNanos (spaced.follow.times f held).ordinary whole.ordinary] at after
      have delay := (retrySeconds_bounds t.attempts.toNat).1
      simp only [nanosPerSecond] at late
      omega
    · rw [List.mem_singleton.mp isLast] at delays
      obtain ⟨next', isNext', late⟩ := delays.next retried nonneg
      cases isNext.symm.trans isNext'
      exact late

theorem settles {transitions : List EntryTransition} (spaced : row.Spaced log fetched)
    (settles : row.Settles clock transitions row')
    (attempted : ∀ t ∈ transitions, ∃ f ∈ fetched, ∃ now, f.copy.AttemptedAt t now ∧ now.Whole ∧
      f.time.le now = true)
    (copied : ∀ f ∈ fetched, row.id = f.copy.id → row.fixedPart = f.copy.fixedPart) :
    row'.Spaced (log ++ transitions) fetched := by
  induction settles generalizing log with
  | done => rwa [List.append_nil]
  | @next row t rest row' untouched _ ih =>
    obtain ⟨f, held, now, came, whole, after⟩ := attempted t List.mem_cons_self
    have same := (OutboxRows.isUntouched_iff.mp untouched).1.trans came.attempted.id
    obtain ⟨_, _, _, _, _, _, limit, _⟩ := OutboxEntry.fixedPart_eq_iff.mp (copied f held same)
    have rest := ih (spaced.settle held came whole after limit untouched clock)
      (fun other later => attempted other (List.mem_cons_of_mem _ later)) copied
    rwa [List.append_assoc] at rest

/-- A fetch of a row that is due comes after all delays of before. -/
theorem hold {rows : OutboxRows} {new : List TimedCopy} (spaced : row.Spaced log fetched)
    (consistent : rows.Consistent) (member : row ∈ rows)
    (due : ∀ f ∈ new, f.copy ∈ rows ∧ f.copy.isDue f.time = true ∧ f.time.Whole) :
    row.Spaced log (fetched ++ new) := by
  have isRow : ∀ f ∈ new, f.copy.id = row.id → f.copy = row := fun f among same =>
    consistent.eq_of_id (due f among).1 member same
  have bounded : ∀ f ∈ fetched ++ new, f.copy.id = row.id → f.copy.attempts ≤ row.attempts := by
    intro f held same
    rcases List.mem_append.mp held with old | among
    · exact spaced.bounded f old same
    · exact Int.le_of_eq (congrArg OutboxEntry.attempts (isRow f among same))
  have late : ∀ f ∈ new, f.copy.id = row.id → ∀ t ∈ log, ∀ reopens, t.DelaysTo reopens →
      reopens ≤ f.time.toNanos ∧
        ∀ next, f.copy.nextAttemptAt = some next → reopens ≤ next.toNanos := by
    intro f among same t landed reopens delays
    obtain ⟨_, isDue, whole⟩ := due f among
    rw [isRow f among same] at isDue ⊢
    have scheduled := spaced.scheduled t landed reopens delays
    refine ⟨?_, scheduled⟩
    obtain ⟨next, isNext⟩ := OutboxEntry.scheduled_of_isDue isDue
    have begun := OutboxRows.next_le_of_isDue isDue isNext
    have stored := consistent.stored row member
    rw [isNext] at stored
    have ordinary : next.nanos < nanosPerSecond := Option.some.inj stored ▸ next.stored_ordinary
    rw [Instant.le_iff_toNanos ordinary whole.ordinary] at begun
    have bound := scheduled next isNext
    omega
  exact { spaced with
    follow := spaced.follow.hold (fun f among => (due f among).2.2) late
    bounded := bounded }

/-- What one call makes of a row that keeps to its delays. -/
theorem turn {table : OutboxTable} {x : Transaction} {landed : List EntryTransition}
    {renewed : Bool} (spaced : row.Spaced log fetched)
    (turn : row.Turn table x landed renewed row') (paced : x.Paced table fetched)
    (copied : ∀ f ∈ fetched, row.id = f.copy.id → row.fixedPart = f.copy.fixedPart)
    (stored : row.nextAttemptAt.map Instant.stored = row.nextAttemptAt) :
    row'.Spaced (log ++ landed) fetched := by
  cases turn with
  | kept => rwa [List.append_nil]
  | claimed target isFetch ends due =>
    rw [List.append_nil]
    obtain ⟨whole, config, spans⟩ := paced.fetches _ _ _ target isFetch
    obtain ⟨_, isLease⟩ := Option.ite_none_right_eq_some.mp spans
    refine spaced.claim due whole ?_ ends fun next scheduled => ?_
    · rw [← Option.some.inj isLease]
      exact Int.natCast_nonneg _
    · rw [scheduled] at stored
      exact Option.some.inj stored ▸ next.stored_ordinary
  | restored target isRelease given untouched =>
    rw [List.append_nil]
    obtain ⟨time, held⟩ := paced.releases _ target isRelease _ given
    exact spaced.restore held untouched
  | settled target isApply sub settles =>
    exact spaced.settles settles
      (fun t landed => paced.settles _ target isApply t (sub.subset landed)) copied
  | renewed target isRequeue _ => exact absurd isRequeue (paced.renewsNone _ _ target)

end OutboxEntry.Spaced

theorem Transaction.Paced.mono {x : Transaction} {table : OutboxTable}
    {fetched fetched' : List TimedCopy} (paced : x.Paced table fetched) (sub : fetched ⊆ fetched') :
    x.Paced table fetched' where
  fetches := paced.fetches
  releases entries target isRelease entry given :=
    (paced.releases entries target isRelease entry given).imp fun _ held => sub held
  settles transitions target isApply t member := by
    obtain ⟨f, held, came⟩ := paced.settles transitions target isApply t member
    exact ⟨f, sub held, came⟩
  renewsNone := paced.renewsNone

/-- Nobody makes entries pending again. -/
theorem Transaction.Paced.logAfter {x : Transaction} {table : OutboxTable}
    {fetched : List TimedCopy} (paced : x.Paced table fetched) (s : Store) (id : Uuid)
    (log : List EntryTransition) :
    s.logAfter table id log x = log ++ (s.rows table).landedBy table id x := by
  have unrenewed : (s.rows table).renewedBy table id x = false := by
    unfold OutboxRows.renewedBy
    split
    · rename_i isRequeue
      have missed : x.db.outbox.table ≠ table := fun target =>
        paced.renewsNone _ _ target isRequeue
      rw [decide_eq_false missed, Bool.false_and, Bool.false_and]
    · rfl
  rw [Store.logAfter, unrenewed, if_neg Bool.false_ne_true]

namespace Store

/-- Such calls, one after the other, with all that was fetched before and after. -/
inductive Paced (table : OutboxTable) :
    Store → List TimedCopy → List Transaction → Store → List TimedCopy → Prop
  | done {s fetched} : Paced table s fetched [] s fetched
  | call {s fetched x rest s' fetched'} : x.Paced table fetched →
      Paced table (s.perform x).2 (fetched ++ x.timedCopies table (s.perform x).1) rest s' fetched' →
      Paced table s fetched (x :: rest) s' fetched'

variable {table : OutboxTable} {s s' : Store} {x : Transaction} {run : List Transaction}
  {fetched fetched' : List TimedCopy} {id : Uuid} {log : List EntryTransition}

theorem map_timedCopies (reply : Except Error Reply) :
    (x.timedCopies table reply).map TimedCopy.copy = x.fetched table reply := by
  unfold Transaction.timedCopies
  split
  · rw [List.map_map]
    exact List.map_id _
  · rename_i other
    rw [Transaction.fetched_eq_nil other, List.map_nil]

/-- What a paced fetch returns was due at the time for which it was fetched. -/
theorem due_of_timedCopies (paced : x.Paced table fetched) :
    ∀ f ∈ x.timedCopies table (s.perform x).1,
      f.copy ∈ s.rows table ∧ f.copy.isDue f.time = true ∧ f.time.Whole := by
  intro f among
  unfold Transaction.timedCopies at among
  split at among
  · rename_i time limit lease isFetch
    obtain ⟨copy, held, rfl⟩ := List.mem_map.mp among
    obtain ⟨_, _, _, target, isFetch', claims⟩ := (s.perform_step x table).fetched_of_mem held
    cases isFetch.symm.trans isFetch'
    obtain ⟨whole, _⟩ := paced.fetches _ _ _ target isFetch
    obtain ⟨inRows, due⟩ := OutboxRows.due_of_fetched claims held
    rw [whole] at due
    exact ⟨inRows, due, whole⟩
  · cases among

theorem permitted_of_paced (paced : x.Paced table fetched) :
    x.Permitted table (fetched.map TimedCopy.copy) where
  released entries target isRelease entry given := by
    obtain ⟨time, held⟩ := paced.releases entries target isRelease entry given
    exact List.mem_map.mpr ⟨_, held, rfl⟩
  settled transitions target isApply t member := by
    obtain ⟨f, held, now, came, _⟩ := paced.settles transitions target isApply t member
    exact ⟨f.copy, List.mem_map_of_mem held, came.attempted⟩

/-- What holds of an entry between paced calls, whether it is there already, or still. -/
structure Spaced (s : Store) (table : OutboxTable) (id : Uuid) (log : List EntryTransition)
    (fetched : List TimedCopy) : Prop where
  follow : EntryTransition.Follow log id fetched
  rows : ∀ row ∈ s.rows table, row.id = id → row.Spaced log fetched

/-- One call keeps to the delays. -/
theorem Spaced.perform {number : Nat} (spaced : s.Spaced table id log fetched)
    (consistent : (s.rows table).Consistent)
    (tracked : (s.rows table).Tracked s.serial (fetched.map TimedCopy.copy))
    (paced : x.Paced table fetched) (room : (s.perform x).2.serial ≤ 2 ^ 128)
    (isNumber : id = Uuid.ofSerial number) (small : number < 2 ^ 128)
    (issued : log ≠ [] → number < s.serial) :
    (s.logAfter table id log x ≠ [] → number < (s.perform x).2.serial) ∧
      (s.perform x).2.Spaced table id (s.logAfter table id log x)
        (fetched ++ x.timedCopies table (s.perform x).1) := by
  have due := due_of_timedCopies (s := s) paced
  obtain ⟨issued', accounts⟩ := perform_accounts consistent tracked (permitted_of_paced paced) room
    isNumber small issued fun row member same => (spaced.rows row member same).accounts
  -- the rows as they were, with what the call fetches
  have held : ∀ row ∈ s.rows table, row.id = id →
      row.Spaced log (fetched ++ x.timedCopies table (s.perform x).1) :=
    fun row member same => (spaced.rows row member same).hold consistent member due
  have copied : ∀ row ∈ s.rows table, ∀ f ∈ fetched ++ x.timedCopies table (s.perform x).1,
      row.id = f.copy.id → row.fixedPart = f.copy.fixedPart := by
    intro row member f among same
    rcases List.mem_append.mp among with old | new
    · exact tracked.copied f.copy (List.mem_map_of_mem old) row member same
    · rw [consistent.eq_of_id member (due f new).1 same]
  have rows : ∀ row ∈ (s.perform x).2.rows table, row.id = id →
      row.Spaced (s.logAfter table id log x)
        (fetched ++ x.timedCopies table (s.perform x).1) := by
    intro row member same
    rcases s.perform_turn consistent member with
      ⟨number', settings, event, now, after, bound, rfl, accepted⟩ | ⟨old, inRows, turn⟩
    · have counted := (accounts _ member same).counted
      have none : s.logAfter table id log x = [] :=
        List.eq_nil_of_length_eq_zero (Int.ofNat_eq_zero.mp counted.symm)
      rw [none] at accounts ⊢
      have unissued : ∀ f ∈ fetched ++ x.timedCopies table (s.perform x).1,
          f.copy.id ≠ Uuid.ofSerial number' := by
        intro f among isNew
        have known : f.copy ∈ s.rows table ∨ f.copy ∈ fetched.map TimedCopy.copy :=
          (List.mem_append.mp among).symm.imp (fun new => (due f new).1) List.mem_map_of_mem
        obtain ⟨earlier, before, isEarlier⟩ := tracked.issued f.copy known
        exact Uuid.ofSerial_ne (by omega) (by omega) (isEarlier.symm.trans isNew)
      exact {
        follow := .start (List.forall_mem_append.mpr
          ⟨spaced.follow.times, fun f new => (due f new).2.2⟩)
        accounts := accounts _ member same
        bounded := fun f among isNew => absurd isNew (unissued f among)
        scheduled := List.forall_mem_nil _ }
    · have isOld := (OutboxEntry.id_of_fixedPart turn.fixedPart).symm.trans same
      rw [same] at turn
      rw [paced.logAfter]
      exact (held old inRows isOld).turn turn (paced.mono (List.subset_append_left _ _))
        (copied old inRows) (consistent.stored old inRows)
  refine ⟨issued', ?_, rows⟩
  by_cases present : ∃ row ∈ (s.perform x).2.rows table, row.id = id
  · obtain ⟨row, member, same⟩ := present
    exact same ▸ (rows row member same).follow
  · have none : (s.rows table).landedBy table id x = [] := Classical.byContradiction
      fun landed => present (exists_of_landedBy landed).2
    rw [paced.logAfter, none, List.append_nil]
    by_cases before : ∃ row ∈ s.rows table, row.id = id
    · obtain ⟨row, member, same⟩ := before
      exact same ▸ (held row member same).follow
    · exact spaced.follow.hold (fun f new => (due f new).2.2)
        fun f new same => absurd ⟨f.copy, (due f new).1, same⟩ before

theorem Paced.store_eq (paced : Paced table s fetched run s' fetched') : s' = s.after run := by
  induction paced with
  | done => rfl
  | call _ _ ih => exact ih

theorem Paced.serial_le (paced : Paced table s fetched run s' fetched') : s.serial ≤ s'.serial := by
  induction paced with
  | done => exact Nat.le_refl _
  | @call s _ x _ _ _ _ _ ih => exact Nat.le_trans (s.serial_le_perform x) ih

/-- So do all calls of a run. -/
theorem Paced.spaced {number : Nat} (paced : Paced table s fetched run s' fetched')
    (reach : Relay.Reachable table ⟨s, fetched.map TimedCopy.copy⟩)
    (room : s'.serial ≤ 2 ^ 128) (isNumber : id = Uuid.ofSerial number) (small : number < 2 ^ 128)
    (issued : log ≠ [] → number < s.serial) (spaced : s.Spaced table id log fetched) :
    s'.Spaced table id (s.landings table id log run) fetched' := by
  induction paced generalizing log with
  | done => exact spaced
  | @call s fetched x rest s' fetched' call others ih =>
    have room' := Nat.le_trans others.serial_le room
    have tracked := reach.tracked (Nat.le_trans (s.serial_le_perform x) room')
    obtain ⟨issued', spaced'⟩ := spaced.perform reach.consistent tracked call room' isNumber small
      issued
    have reach' := Relay.Reachable.perform reach (permitted_of_paced call)
    rw [Relay.perform, ← map_timedCopies, ← List.map_append] at reach'
    exact ih reach' room issued' spaced'

/-- The delay after a failure is kept to, however sweeps take turns. Of two attempts at an entry that
landed the later was made on a copy that was fetched no earlier than the delay allows that the
earlier has set, if that was a failure. -/
theorem backoff_respected {earlier between later : List EntryTransition}
    {first second : EntryTransition} (paced : Paced table {} [] run s fetched)
    (room : s.serial ≤ 2 ^ 128)
    (landed : ({} : Store).landings table id [] run = earlier ++ first :: between ++ second :: later)
    (failure : first.status ≠ .delivered) :
    first.attempts = earlier.length + 1 ∧ (∃ f ∈ fetched, f.copy.Attempted second) ∧
      ∀ entry now, OutboxEntry.AttemptedAt entry first now → now.Whole →
        ∀ f ∈ fetched, f.copy.Attempted second →
          now.toNanos + retrySeconds first.attempts.toNat * nanosPerSecond ≤ f.time.toNanos := by
  obtain ⟨number, small, isNumber⟩ := id.exists_ofSerial
  have begun : ({} : Store).Spaced table id [] [] := by
    have empty : ({} : Store).rows table = [] := by cases table <;> rfl
    refine ⟨.start (List.forall_mem_nil _), ?_⟩
    rw [empty]
    exact List.forall_mem_nil _
  have follow := (paced.spaced .empty room isNumber small (fun some => absurd rfl some) begun).follow
  have ids : ∀ t ∈ ({} : Store).landings table id [] run, t.id = id :=
    id_of_landings (List.forall_mem_nil _)
  rw [landed] at follow ids
  have inFirst : first ∈ earlier ++ first :: between ++ second :: later :=
    List.mem_append_left _ (List.mem_append_right _ List.mem_cons_self)
  have inSecond : second ∈ earlier ++ first :: between ++ second :: later :=
    List.mem_append_right _ List.mem_cons_self
  have at_first : (earlier ++ first :: between ++ second :: later)[earlier.length]? = some first := by
    simp
  have at_second : (earlier ++ first :: between ++ second :: later)[
      earlier.length + 1 + between.length]? = some second := by
    have length : (earlier ++ first :: between).length = earlier.length + 1 + between.length := by
      rw [List.length_append, List.length_cons]
      omega
    rw [← length, List.getElem?_append_right (Nat.le_refl _), Nat.sub_self, List.getElem?_cons_zero]
  obtain ⟨_, count⟩ := follow.raised _ _ at_first
  obtain ⟨count', _⟩ := follow.raised _ _ at_second
  refine ⟨count, follow.computed second inSecond, ?_⟩
  intro entry now came whole f held made
  refine (follow.awaited first inFirst _ ⟨entry, now, came, whole, failure, rfl⟩ f held ?_ ?_).1
  · rw [← made.id, ids second inSecond]
  · have guard := made.previousAttempts
    omega

/-- The theorem about an event that one sweep loses to another when its claim ends, and gives back
late; the other is refused, and a third one delivers the event. -/
theorem backoff_respected_late_release :
    let time : Int → Instant := fun secs => ⟨1767225600 + secs, 0⟩
    let fetch : Int → Transaction := fun secs =>
      ⟨{}, time secs, .fetchDue (time secs) 20 (Period.ofSeconds 300)⟩
    let settle : Int → EntryTransition → Transaction := fun secs t =>
      ⟨{}, time secs, .applyTransitions [t]⟩
    let emit : Transaction := ⟨{}, time 0, .emit ⟨"file", "1", "file.stored", none, none⟩⟩
    let copies := (fetch 0).fetched .core ((({} : Store).after [emit]).perform (fetch 0)).1
    let failure : EntryTransition := ⟨Uuid.ofSerial 0, 0, 1, .pending, some (time 362), none,
      "http://a.test" ++ ": " ++ "HTTP 503"⟩
    let success : EntryTransition :=
      ⟨Uuid.ofSerial 0, 1, 2, .delivered, none, some (time 363), ""⟩
    let run := [emit, fetch 0, fetch 301, settle 302 failure, ⟨{}, time 303, .release copies⟩,
      fetch 362, settle 363 success]
    ∃ s fetched entry, copies.length = 1 ∧ Paced .core {} [] run s fetched ∧
      s.serial ≤ 2 ^ 128 ∧
      ({} : Store).landings .core (Uuid.ofSerial 0) [] run = [failure, success] ∧
      OutboxEntry.AttemptedAt entry failure (time 302) ∧ (time 302).Whole ∧
      ∃ f ∈ fetched, f.copy.Attempted success ∧
        (time 302).toNanos + retrySeconds 1 * nanosPerSecond ≤ f.time.toNanos := by
  intro time fetch settle emit copies failure success run
  let s₂ := ({} : Store).after [emit, fetch 0]
  let s₅ := s₂.after [fetch 301, settle 302 failure, ⟨{}, time 303, .release copies⟩]
  have early : ((fetch 301).fetched .core (s₂.perform (fetch 301)).1).map
      (fun e => (e.id, e.attempts, e.maxAttempts)) = [(Uuid.ofSerial 0, 0, 5)] := by decide +kernel
  have late : ((fetch 362).fetched .core (s₅.perform (fetch 362)).1).map
      (fun e => (e.id, e.attempts)) = [(Uuid.ofSerial 0, 1)] := by decide +kernel
  obtain ⟨copy, fetched, isCopy⟩ := List.map_eq_singleton_iff.mp early
  obtain ⟨copy', fetched', isCopy'⟩ := List.map_eq_singleton_iff.mp late
  simp only [Prod.mk.injEq] at isCopy isCopy'
  have refused : copy.AttemptedAt failure (time 302) := by
    have delay : ({} : RetryPolicy).delay (fun _ => 0) 1 = .ok (Period.ofSeconds 60) := by
      decide +kernel
    have next : (time 302).add? (Period.ofSeconds 60) = some (time 362) := by decide
    obtain ⟨σ, services, endpoints, _, _, posts⟩ := copy.exists_refusal "http://a.test" "HTTP 503"
    refine ⟨σ, services, endpoints, _, _, _, fun _ => 0, posts, ?_⟩
    simp [RetryPolicy.transition, isCopy, delay, next, failure]
  have taken : copy'.AttemptedAt success (time 363) := by
    obtain ⟨σ, services, endpoints, _, _, posts⟩ := copy'.exists_success
    refine ⟨σ, services, endpoints, _, _, _, fun _ => 0, posts, ?_⟩
    simp [RetryPolicy.transition, isCopy', success]
  have fetches : ∀ secs (known : List TimedCopy), (time secs).Whole →
      (fetch secs).Paced .core known := by
    refine fun secs known whole => ⟨?_, nofun, nofun, nofun⟩
    rintro _ _ _ _ ⟨⟩
    exact ⟨whole, {}, by decide⟩
  have settles : ∀ {known : List TimedCopy} {secs : Int} {t : EntryTransition} (f : TimedCopy),
      f ∈ known → f.copy.AttemptedAt t (time secs) → (time secs).Whole →
      f.time.le (time secs) = true → (settle secs t).Paced .core known := by
    refine fun f held came whole after => ⟨nofun, nofun, ?_, nofun⟩
    rintro _ _ ⟨⟩ t member
    exact List.mem_singleton.mp member ▸ ⟨f, held, _, came, whole, after⟩
  have releases : ∀ {known : List TimedCopy}, (∀ copy ∈ copies, ⟨copy, time 0⟩ ∈ known) →
      Transaction.Paced ⟨{}, time 303, .release copies⟩ .core known := by
    refine fun held => ⟨nofun, ?_, nofun, nofun⟩
    rintro _ _ ⟨⟩ copy given
    exact ⟨time 0, held copy given⟩
  have third : (fetch 301).timedCopies .core (s₂.perform (fetch 301)).1 = [⟨copy, time 301⟩] :=
    congrArg (List.map (TimedCopy.mk · (time 301))) fetched
  have sixth : (fetch 362).timedCopies .core (s₅.perform (fetch 362)).1 = [⟨copy', time 362⟩] :=
    congrArg (List.map (TimedCopy.mk · (time 362))) fetched'
  have first : (time 301).le (time 302) = true := by decide
  have second : (time 362).le (time 363) = true := by decide
  have all : ∃ s known, Paced .core {} [] run s known := by
    refine ⟨_, _, .call ⟨nofun, nofun, nofun, nofun⟩ (.call (fetches 0 _ (by decide))
      (.call (fetches 301 _ (by decide)) (.call (settles ⟨copy, time 301⟩ ?_ refused (by decide)
        first) (.call (releases fun copy given => ?_) (.call (fetches 362 _ (by decide))
          (.call (settles ⟨copy', time 362⟩ ?_ taken (by decide) second) .done))))))⟩
    · exact List.mem_append_right _ (third ▸ List.mem_singleton_self _)
    · exact List.mem_append_left _ (List.mem_append_left _ (List.mem_append_right _
        (List.mem_map_of_mem given)))
    · exact List.mem_append_right _ (sixth ▸ List.mem_singleton_self _)
  obtain ⟨s, known, paced⟩ := all
  have room : s.serial ≤ 2 ^ 128 := by
    rw [paced.store_eq]
    decide +kernel
  have landed : ({} : Store).landings .core (Uuid.ofSerial 0) [] run = [failure, success] := by
    decide +kernel
  have split : ({} : Store).landings .core (Uuid.ofSerial 0) [] run =
      [] ++ failure :: [] ++ success :: [] := landed
  obtain ⟨_, ⟨f, held, made⟩, kept⟩ := backoff_respected paced room split nofun
  exact ⟨s, known, copy, by decide +kernel, paced, room, landed, refused, by decide, f, held, made,
    kept copy (time 302) refused (by decide) f held made⟩

end Store

end OutboxRelay
