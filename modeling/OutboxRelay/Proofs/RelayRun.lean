import OutboxRelay.Proofs.Tracking
import OutboxRelay.Proofs.UploadWrites

namespace OutboxRelay

/-- The store together with all that sweeps have ever fetched from one of its outbox tables. -/
structure Relay where
  store : Store := {}
  copies : List OutboxEntry := []

namespace Relay

def perform (r : Relay) (table : OutboxTable) (x : Transaction) : Relay where
  store := (r.store.perform x).2
  copies := r.copies ++ x.fetched table (r.store.perform x).1

/-- What runs of calls lead to, from empty tables. -/
inductive Reachable (table : OutboxTable) : Relay → Prop
  | empty : Reachable table {}
  | perform {r x} : Reachable table r → x.Permitted table r.copies →
      Reachable table (r.perform table x)

variable {table : OutboxTable} {r : Relay}

theorem Reachable.consistent (reach : Reachable table r) : (r.store.rows table).Consistent := by
  induction reach with
  | empty => cases table <;> exact .empty
  | perform _ _ ih => exact ih.step (Store.perform_step _ _ table)

theorem Reachable.readable (reach : Reachable table r) : (r.store.rows table).Readable := by
  induction reach with
  | empty => cases table <;> exact List.forall_mem_nil _
  | perform _ _ ih => exact ih.step (Store.perform_step _ _ table)

theorem Reachable.tracked (reach : Reachable table r) (room : r.store.serial ≤ 2 ^ 128) :
    (r.store.rows table).Tracked r.store.serial r.copies := by
  induction reach with
  | empty => cases table <;> exact .empty
  | @perform r x before permitted ih =>
    have step := r.store.perform_step x table
    exact (ih (Nat.le_trans step.serial_le room)).step before.consistent permitted step room

end Relay

namespace OutboxRows
variable {rows : OutboxRows} {e : Error}

/-- A fetch is refused for what it asks for, or for a payload that cannot be read. -/
theorem fetchDue_error {now clock : Instant} {limit : Int} {lease : Period}
    (refused : rows.fetchDue now limit lease clock = .error e) :
    (∃ reason, e = .config reason) ∨
      e ∈ [.database .timeRange, .database .negativeLimit, .database .unreadable] := by
  rw [fetchDue, bind_eq_error_iff] at refused
  rcases refused with early | ⟨claimEnd, _, rest⟩
  · unfold OutboxTable.claimEnd at early
    split at early <;> cases early
    exact .inl ⟨_, rfl⟩
  rcases bind_eq_error_iff.mp rest with first | ⟨entries, _, rest⟩
  · unfold firstDue at first
    split at first
    · cases first
      exact .inr (by decide)
    · split at first
      · cases first
        exact .inr (by decide)
      · dsimp only at first
        split at first <;> cases first
        exact .inr (by decide)
  · split at rest
    · cases rest
    · rcases bind_eq_error_iff.mp rest with claim | ⟨_, _, returned⟩
      · unfold claimAll at claim
        split at claim <;> cases claim
        exact .inr (by decide)
      · cases returned

theorem cleanup_error {cutoff : Instant} {limit : Int}
    (refused : rows.cleanup cutoff limit = .error e) :
    e ∈ [.database .timeRange, .database .negativeLimit] := by
  rcases bind_eq_error_iff.mp refused with count | ⟨total, _, rest⟩
  · unfold countExpired at count
    split at count <;> cases count
    decide
  · split at rest
    · cases rest
    · rcases bind_eq_error_iff.mp rest with delete | ⟨_, _, returned⟩
      · unfold deleteExpired at delete
        split at delete <;> cases delete
        decide
      · cases returned

end OutboxRows

/-- A write to an outbox table fails with what refused it. -/
theorem Store.atomic_onOutbox_error {α β : Type} {s : Store} {table : OutboxTable}
    {operation : OutboxRows → Except Error (α × OutboxRows)} {g : α → β} {e : Error}
    (failed : (s.atomic (g <$> Work.onOutbox table operation)).1 = .error e) :
    operation (s.rows table) = .error e := by
  rw [s.atomic_onOutbox] at failed
  change operation (s.tables.outbox table) = .error e
  cases result : operation (s.tables.outbox table) with
  | error e' =>
    rw [result] at failed
    cases failed
    rfl
  | ok value =>
    rw [result] at failed
    cases failed

namespace Relay
variable {table : OutboxTable} {r : Relay}

/-- The checks of the table never stop a sweep or an operator. -/
theorem Reachable.unrefused (reach : Reachable table r) (room : r.store.serial ≤ 2 ^ 128)
    {x : Transaction} (permitted : x.Permitted table r.copies) (target : x.db.outbox.table = table)
    (reworks : x.call.reworks = true) :
    (r.store.perform x).1 ≠ .error (.database .check) ∧
      (r.store.perform x).1 ≠ .error (.database .numericRange) := by
  have consistent := reach.consistent
  have tracked := reach.tracked room
  suffices harmless : ∀ e, (r.store.perform x).1 = .error e →
      (∃ reason, e = .config reason) ∨ e ∈ [.database .timeRange, .database .negativeLimit,
        .database .unreadable, .database .nullCharacter] by
    constructor <;>
    · intro refused
      rcases harmless _ refused with ⟨_, ⟨⟩⟩ | listed
      exact absurd listed (by decide)
  obtain ⟨db, now, call⟩ := x
  subst target
  intro e refused
  cases call with
  | fetchDue time limit lease =>
    rw [Store.perform_fetchDue] at refused
    refine (OutboxRows.fetchDue_error (Store.atomic_onOutbox_error refused)).imp id fun listed => ?_
    exact List.mem_append_left [_] listed
  | release entries =>
    rw [Store.perform_release] at refused
    obtain ⟨_, _, released⟩ :=
      tracked.release_ok consistent (permitted.released entries rfl rfl) now
    have failed := Store.atomic_onOutbox_error refused
    rw [released] at failed
    cases failed
  | applyTransitions transitions =>
    rw [Store.perform_applyTransitions] at refused
    obtain ⟨rfl, _⟩ := tracked.applyTransitions_error consistent
      (permitted.settled transitions rfl rfl) (Store.atomic_onOutbox_error refused)
    exact .inr (by decide)
  | cleanup cutoff limit =>
    rw [Store.perform_cleanup] at refused
    have listed := OutboxRows.cleanup_error (Store.atomic_onOutbox_error refused)
    exact .inr (List.mem_append_left [_, _] listed)
  | requeueFailed ids due =>
    rw [Store.perform_requeueFailed] at refused
    have failed := Store.atomic_onOutbox_error refused
    cases storable : due.isStorable with
    | true =>
      obtain ⟨_, _, requeued⟩ := tracked.requeueFailed_ok consistent ids storable now
      rw [requeued] at failed
      cases failed
    | false =>
      rw [OutboxRows.requeueFailed, OutboxRows.renewFailed, storable] at failed
      split at failed <;> cases failed
      exact .inr (by decide)
  | _ => cases reworks

/-- The lifecycle of entries, whatever order the calls of emitters, sweeps and operators come in:
keys stay unique, every row stands at a proper stage, no copy counts past the integer range when it
is attempted, and no write of what came of an attempt breaks a check. -/
theorem reachable_lifecycle (reach : Reachable table r) (room : r.store.serial ≤ 2 ^ 128) :
    (r.store.rows table).Pairwise (fun a b =>
        ¬(a.eventType = b.eventType ∧ a.idempotencyKey = b.idempotencyKey)) ∧
      (∀ row ∈ r.store.rows table, row.InLifecycle) ∧
      (∀ copy ∈ r.copies, fitsInt32 (copy.attempts + 1) = true) ∧
      ∀ x : Transaction, x.Permitted table r.copies → x.db.outbox.table = table →
        x.call.reworks = true → (r.store.perform x).1 ≠ .error (.database .check) ∧
          (r.store.perform x).1 ≠ .error (.database .numericRange) := by
  have tracked := reach.tracked room
  refine ⟨reach.consistent.keys, fun row member => tracked.lifecycle row (.inl member), ?_,
    fun _ permitted target reworks => reach.unrefused room permitted target reworks⟩
  intro copy held
  have life := tracked.lifecycle copy (.inr held)
  obtain ⟨pending, accepted⟩ := tracked.claimed copy held
  have nonneg := life.nonneg
  have more := life.remaining pending
  have range := (OutboxEntry.fault?_eq_none_iff.mp accepted).2.2.1
  have lowest : minInt32 ≤ 0 := by decide
  simp only [fitsInt32, Bool.and_eq_true, decide_eq_true_eq] at range ⊢
  omega

/-- The theorem about an event that was put in and then claimed. -/
theorem reachable_lifecycle_claimed :
    let time : Instant := ⟨1767225600, 0⟩
    let r := (({} : Relay).perform .core
        ⟨{}, time, .emit ⟨"file", "1", "file.stored", none, none⟩⟩).perform .core
        ⟨{}, time, .fetchDue time 10 ⟨300000000000⟩⟩
    Reachable .core r ∧ r.store.serial ≤ 2 ^ 128 ∧ (r.store.rows .core).length = 1 ∧
      r.copies.length = 1 ∧ (∀ row ∈ r.store.rows .core, row.InLifecycle) ∧
      ∀ copy ∈ r.copies, fitsInt32 (copy.attempts + 1) = true := by
  intro time r
  have reach : Reachable .core r := .perform (.perform .empty ⟨nofun, nofun⟩) ⟨nofun, nofun⟩
  have room : r.store.serial ≤ 2 ^ 128 := by decide +kernel
  obtain ⟨_, life, counts, _⟩ := reachable_lifecycle reach room
  exact ⟨reach, room, by decide +kernel, by decide +kernel, life, counts⟩

end Relay

end OutboxRelay
