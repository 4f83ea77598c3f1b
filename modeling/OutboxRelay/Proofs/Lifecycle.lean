import OutboxRelay.Proofs.Attempts
import OutboxRelay.Proofs.RowWrites
import OutboxRelay.Store.UnitOfWork

namespace OutboxRelay

/-- How the columns of an entry fit together at each stage of its delivery. -/
structure OutboxEntry.InLifecycle (e : OutboxEntry) : Prop where
  nonneg : 0 ≤ e.attempts
  bounded : e.attempts ≤ e.maxAttempts
  scheduled : e.nextAttemptAt.isSome = true ↔ e.status = .pending
  stamped : e.deliveredAt.isSome = true ↔ e.status = .delivered
  remaining : e.status = .pending → e.attempts < e.maxAttempts
  exhausted : e.status = .failed → e.attempts = e.maxAttempts
  attempted : e.status = .delivered → 1 ≤ e.attempts
  silent : e.status = .delivered ∨ e.status = .pending ∧ e.attempts = 0 → e.errorMessage = ""
  explained : e.status = .failed ∨ e.status = .pending ∧ 0 < e.attempts → e.errorMessage ≠ ""

namespace OutboxEntry

theorem InLifecycle.deliveredAt_eq_none {e : OutboxEntry} (life : e.InLifecycle)
    (undelivered : e.status ≠ .delivered) : e.deliveredAt = none := by
  have unstamped := mt life.stamped.mp undelivered
  simpa only [Bool.not_eq_true, Option.isSome_eq_false_iff, Option.isNone_iff_eq_none] using unstamped

/-- A row in its lifecycle passes all checks if it came from one that does. -/
theorem InLifecycle.fault?_eq_none {e row : OutboxEntry} (life : e.InLifecycle)
    (fixed : e.fixedPart = row.fixedPart) (accepted : row.fault? = none)
    (message : hasNull e.errorMessage = false) : e.fault? = none := by
  obtain ⟨_, type, aggregate, event, _, key, limit, _⟩ := fixedPart_eq_iff.mp fixed
  obtain ⟨⟨texts, _⟩, _, range, lawful⟩ := fault?_eq_none_iff.mp accepted
  have positive := (isLawful_iff.mp lawful).2.1
  have nonneg := life.nonneg
  have bounded := life.bounded
  rw [← type, ← aggregate, ← event, ← key] at texts
  rw [← limit] at range positive
  refine fault?_eq_none_iff.mpr ⟨⟨texts, message⟩, ?_, range,
    isLawful_iff.mpr ⟨nonneg, positive, life.scheduled.symm⟩⟩
  simp only [fitsInt32, Bool.and_eq_true, decide_eq_true_eq] at range ⊢
  have lowest : minInt32 ≤ 0 := by decide
  omega

/-- Another schedule leaves a pending entry where it stands. -/
theorem InLifecycle.reschedule {e : OutboxEntry} (life : e.InLifecycle)
    (pending : e.status = .pending) (next : Instant) (clock : Instant) :
    ({ e with nextAttemptAt := some next, updatedAt := clock } : OutboxEntry).InLifecycle :=
  { life with scheduled := ⟨fun _ => pending, fun _ => rfl⟩ }

theorem InLifecycle.renew {e : OutboxEntry} (life : e.InLifecycle) (failed : e.status = .failed)
    (positive : 0 < e.maxAttempts) (due clock : Instant) :
    (OutboxRows.renew due clock e).InLifecycle where
  nonneg := Int.le_refl 0
  bounded := Int.le_of_lt positive
  scheduled := ⟨fun _ => rfl, fun _ => rfl⟩
  stamped := by
    have unstamped := life.deliveredAt_eq_none (by simp only [failed, ne_eq, reduceCtorEq,
      not_false_eq_true])
    simp only [OutboxRows.renew, unstamped, Option.isSome_none, Bool.false_eq_true, reduceCtorEq]
  remaining _ := positive
  exhausted := nofun
  attempted := nofun
  silent _ := rfl
  explained := by
    rintro (⟨⟨⟩⟩ | ⟨_, more⟩)
    exact absurd more (Int.lt_irrefl 0)

/-- A write of what an attempt came to is right for a row that is still where the attempt found
its entry. -/
theorem InLifecycle.settle {entry row : OutboxEntry} {t : EntryTransition}
    (life : row.InLifecycle) (pending : row.status = .pending)
    (attempts : row.attempts = entry.attempts) (limit : row.maxAttempts = entry.maxAttempts)
    (attempted : entry.Attempted t) (clock : Instant) :
    (OutboxRows.settle t clock row).InLifecycle := by
  have nonneg := life.nonneg
  have remaining := life.remaining pending
  have unstamped := life.deliveredAt_eq_none (by simp only [pending, ne_eq, reduceCtorEq,
    not_false_eq_true])
  have message := attempted.message_ne_empty
  obtain ⟨_, _, _, _, _, _, _, _, _, _, made⟩ := attempted
  rcases RetryPolicy.transition_cases made with ⟨_, rfl⟩ | ⟨_, _, last, rfl⟩ |
    ⟨_, _, next, _, more, _, _, rfl⟩
  · exact {
      nonneg := by simp only [OutboxRows.settle]; omega
      bounded := by simp only [OutboxRows.settle]; omega
      scheduled := ⟨nofun, nofun⟩
      stamped := ⟨fun _ => rfl, fun _ => rfl⟩
      remaining := nofun
      exhausted := nofun
      attempted := fun _ => by simp only [OutboxRows.settle]; omega
      silent := fun _ => rfl
      explained := nofun }
  · exact {
      nonneg := by simp only [OutboxRows.settle]; omega
      bounded := by simp only [OutboxRows.settle]; omega
      scheduled := ⟨nofun, nofun⟩
      stamped := by simp [OutboxRows.settle, unstamped]
      remaining := nofun
      exhausted := fun _ => by simp only [OutboxRows.settle]; omega
      attempted := nofun
      silent := nofun
      explained := fun _ => message nofun }
  · exact {
      nonneg := by simp only [OutboxRows.settle]; omega
      bounded := by simp only [OutboxRows.settle]; omega
      scheduled := ⟨fun _ => rfl, fun _ => rfl⟩
      stamped := by simp [OutboxRows.settle, unstamped]
      remaining := fun _ => by simp only [OutboxRows.settle]; omega
      exhausted := nofun
      attempted := nofun
      silent := by
        rintro (⟨⟨⟩⟩ | ⟨_, first⟩)
        simp only [OutboxRows.settle] at first
        omega
      explained := fun _ => message nofun }

end OutboxEntry

theorem OutboxSettings.newEntry_inLifecycle (settings : OutboxSettings) (id : Uuid)
    (event : NewOutboxEvent) (now : Instant) (positive : 0 < settings.maxAttempts) :
    (settings.newEntry id event now).InLifecycle where
  nonneg := Int.le_refl 0
  bounded := Int.le_of_lt positive
  scheduled := ⟨fun _ => rfl, fun _ => rfl⟩
  stamped := ⟨nofun, nofun⟩
  remaining _ := positive
  exhausted := nofun
  attempted := nofun
  silent _ := rfl
  explained := by
    rintro (⟨⟨⟩⟩ | ⟨_, more⟩)
    exact absurd more (Int.lt_irrefl 0)

end OutboxRelay
