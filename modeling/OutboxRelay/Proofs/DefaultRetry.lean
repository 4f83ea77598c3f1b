import Mathlib.Algebra.Group.Int.Defs
import Mathlib.Algebra.Group.Nat.Defs
import OutboxRelay.Proofs.Attempts
import OutboxRelay.Proofs.DelayGrowth

namespace OutboxRelay

/-- The seconds before the retry that follows a number of attempts, without jitter. -/
def retrySeconds (attempts : Nat) : Int := min (60 * 2 ^ (attempts - 1)) 3600

theorem retrySeconds_late {attempts : Nat} (late : 7 ≤ attempts) : retrySeconds attempts = 3600 := by
  have power : 2 ^ 6 ≤ 2 ^ (attempts - 1) := Nat.pow_le_pow_right (by decide) (by omega)
  have power' : ((2 : Int) ^ 6) ≤ 2 ^ (attempts - 1) := by exact_mod_cast power
  unfold retrySeconds
  omega

theorem retrySeconds_mem (attempts : Nat) :
    retrySeconds attempts ∈ [60, 120, 240, 480, 960, 1920, (3600 : Int)] := by
  by_cases late : 7 ≤ attempts
  · rw [retrySeconds_late late]
    decide
  · have few : attempts ∈ List.range 7 := List.mem_range.mpr (by omega)
    have all : ∀ n ∈ List.range 7, retrySeconds n ∈ [60, 120, 240, 480, 960, 1920, (3600 : Int)] := by
      decide
    exact all attempts few

theorem retrySeconds_bounds (attempts : Nat) :
    60 ≤ retrySeconds attempts ∧ retrySeconds attempts ≤ 3600 := by
  have range : ∀ b ∈ [60, 120, 240, 480, 960, 1920, (3600 : Int)], 60 ≤ b ∧ b ≤ 3600 := by decide
  exact range _ (retrySeconds_mem attempts)

namespace RetryPolicy

theorem baseDelay_default (attempts : Nat) :
    ({} : RetryPolicy).baseDelay attempts = retrySeconds attempts := by
  have count : doublings attempts = attempts - 1 := by
    unfold doublings
    omega
  rw [(baseDelay_doubled_iff (by decide) (by decide)).mpr (.inr (by decide)), count]
  rfl

/-- The default jitter is a tenth of the delay. -/
theorem maxJitter_default (attempts : Nat) :
    ({} : RetryPolicy).maxJitter (retrySeconds attempts) = retrySeconds attempts / 10 := by
  have all : ∀ b ∈ [60, 120, 240, 480, 960, 1920, (3600 : Int)],
      ({} : RetryPolicy).maxJitter b = b / 10 := by decide
  exact all _ (retrySeconds_mem attempts)

/-- The default delay is never refused. -/
theorem delay_default (draw : Int → Int) (attempts : Nat) :
    ∃ secs, retrySeconds attempts ≤ secs ∧
      secs ≤ retrySeconds attempts + retrySeconds attempts / 10 ∧
      ({} : RetryPolicy).delay draw attempts = .ok (Period.ofSeconds secs) := by
  obtain ⟨low, high⟩ := retrySeconds_bounds attempts
  let jitter := max 0 (min (retrySeconds attempts / 10) (draw (retrySeconds attempts / 10)))
  refine ⟨retrySeconds attempts + jitter, by omega, by omega, ?_⟩
  have possible : Period.ofSeconds? (retrySeconds attempts + jitter) =
      some (Period.ofSeconds (retrySeconds attempts + jitter)) := by
    unfold Period.ofSeconds? Period.limitSeconds
    rw [if_pos (by omega)]
  simp only [delay, baseDelay_default, maxJitter_default]
  rw [if_neg (by omega), possible]

/-- A default retry is only refused if it would be past the end of the calendar. -/
theorem transition_default_error {draw : Int → Int} {entry : OutboxEntry} {error : Option String}
    {now : Instant} {fault : ScheduleFault} (nonneg : 0 ≤ entry.attempts)
    (refused : ({} : RetryPolicy).transition draw entry error now = .error fault) :
    fault = .timeOutOfRange ∧ error ≠ none ∧ entry.attempts + 1 < entry.maxAttempts ∧
      ∃ secs, 60 ≤ secs ∧ secs ≤ 3960 ∧ now.add? (Period.ofSeconds secs) = none := by
  have count : entry.attempts + 1 = ((entry.attempts + 1).toNat : Int) := by omega
  obtain ⟨secs, low, high, delayed⟩ := delay_default draw (entry.attempts + 1).toNat
  obtain ⟨least, greatest⟩ := retrySeconds_bounds (entry.attempts + 1).toNat
  rw [← count] at delayed
  unfold transition at refused
  dsimp only at refused
  split at refused
  · cases refused
  · split at refused
    · cases refused
    · rename_i more
      rw [delayed] at refused
      dsimp only at refused
      split at refused
      · rename_i past
        cases refused
        exact ⟨rfl, nofun, by omega, secs, by omega, by omega, past⟩
      · cases refused

/-- When a default retry comes. -/
theorem transition_default_retry {draw : Int → Int} {entry : OutboxEntry} {error : Option String}
    {now : Instant} {t : EntryTransition} (nonneg : 0 ≤ entry.attempts)
    (made : ({} : RetryPolicy).transition draw entry error now = .ok t)
    (retried : t.status = .pending) :
    ∃ secs next, retrySeconds (entry.attempts + 1).toNat ≤ secs ∧
      secs ≤ retrySeconds (entry.attempts + 1).toNat +
        retrySeconds (entry.attempts + 1).toNat / 10 ∧
      now.add? (Period.ofSeconds secs) = some next ∧ t.nextAttemptAt = some next := by
  have count : entry.attempts + 1 = ((entry.attempts + 1).toNat : Int) := by omega
  obtain ⟨secs, low, high, delayed⟩ := delay_default draw (entry.attempts + 1).toNat
  rw [← count] at delayed
  rcases transition_cases made with ⟨_, rfl⟩ | ⟨_, _, _, rfl⟩ | ⟨_, _, next, _, _, delayed', added, rfl⟩
  · cases retried
  · cases retried
  · rw [delayed] at delayed'
    cases delayed'
    exact ⟨secs, next, low, high, added, rfl⟩

end RetryPolicy

end OutboxRelay
