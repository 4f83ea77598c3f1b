import Mathlib.Algebra.Order.Ring.Int
import Mathlib.Tactic.Ring
import OutboxRelay.Proofs.WordArithmetic

namespace OutboxRelay

namespace RetryPolicy
variable {policy : RetryPolicy} {attempts : Int}

/-- How often the delay has doubled before the retry that follows a number of attempts. -/
def doublings (attempts : Int) : Nat := (max attempts 1 - 1).toNat

/-- The first delay doubled a number of times, up to the greatest delay. -/
def doubled (policy : RetryPolicy) (count : Nat) : Int :=
  min (policy.baseDelaySecs * 2 ^ count) policy.maxDelaySecs

theorem doubled_le_max (policy : RetryPolicy) (count : Nat) :
    policy.doubled count ≤ policy.maxDelaySecs := Int.min_le_right _ _

section Growth
variable (first : 1 ≤ policy.baseDelaySecs)
include first

theorem product_mono {few many : Nat} (le : few ≤ many) :
    policy.baseDelaySecs * 2 ^ few ≤ policy.baseDelaySecs * 2 ^ many :=
  Int.mul_le_mul_of_nonneg_left (pow_le_pow_right₀ (by decide) le) (by omega)

theorem doubled_mono {few many : Nat} (le : few ≤ many) :
    policy.doubled few ≤ policy.doubled many := by
  have grown := product_mono first le
  unfold doubled
  omega

theorem min_le_doubled (count : Nat) :
    min policy.baseDelaySecs policy.maxDelaySecs ≤ policy.doubled count := by
  have none := doubled_mono first (Nat.zero_le count)
  rwa [doubled, pow_zero, Int.mul_one] at none

/-- Another doubling makes no difference only if the greatest delay is reached. -/
theorem doubled_eq_iff {few many : Nat} (lt : few < many) :
    policy.doubled few = policy.doubled many ↔
      policy.maxDelaySecs ≤ policy.baseDelaySecs * 2 ^ few := by
  have positive : 1 ≤ policy.baseDelaySecs * 2 ^ few := by
    have grown := product_mono first (Nat.zero_le few)
    rw [pow_zero, Int.mul_one] at grown
    omega
  have grown := product_mono first (Nat.succ_le_of_lt lt)
  rw [Nat.succ_eq_add_one, pow_succ, ← Int.mul_assoc] at grown
  unfold doubled
  omega

end Growth

theorem doubled_succ (greatest : 1 ≤ policy.maxDelaySecs) (count : Nat) :
    policy.doubled (count + 1) = min (2 * policy.doubled count) policy.maxDelaySecs := by
  have twice : policy.baseDelaySecs * 2 ^ (count + 1) = 2 * (policy.baseDelaySecs * 2 ^ count) := by
    ring
  unfold doubled
  omega

/-- The formula over numbers of any size. -/
theorem baseDelay_eq (policy : RetryPolicy) (attempts : Int) :
    policy.baseDelay attempts =
      min (clampInt64 (policy.baseDelaySecs * Nat.pow 2 (min (max attempts 1 - 1) 32).toNat))
        policy.maxDelaySecs := rfl

/-- No delay has doubled more than thirty-two times. -/
theorem baseDelay_eq_doubled (first : 1 ≤ policy.baseDelaySecs)
    (word : policy.maxDelaySecs ≤ maxInt64) (attempts : Int) :
    policy.baseDelay attempts = policy.doubled (min (doublings attempts) 32) := by
  have count : (min (max attempts 1 - 1) 32).toNat = min (doublings attempts) 32 := by
    unfold doublings
    omega
  have nonneg : 0 ≤ policy.baseDelaySecs * 2 ^ min (doublings attempts) 32 := by
    have grown := product_mono first (Nat.zero_le (min (doublings attempts) 32))
    rw [pow_zero, Int.mul_one] at grown
    omega
  rw [baseDelay_eq, count, Nat.pow_eq, Nat.cast_pow, Nat.cast_ofNat, doubled,
    min_clampInt64 nonneg word]

/-- A delay is what the doubling makes of it unless the greatest one is too far away. -/
theorem baseDelay_doubled_iff (first : 1 ≤ policy.baseDelaySecs)
    (word : policy.maxDelaySecs ≤ maxInt64) :
    policy.baseDelay attempts = policy.doubled (doublings attempts) ↔
      attempts ≤ 33 ∨ policy.maxDelaySecs ≤ policy.baseDelaySecs * 2 ^ 32 := by
  rw [baseDelay_eq_doubled first word]
  by_cases early : doublings attempts ≤ 32
  · rw [Nat.min_eq_left early]
    refine iff_of_true rfl (.inl ?_)
    unfold doublings at early
    omega
  · rw [Nat.min_eq_right (by omega), doubled_eq_iff first (by omega)]
    refine (or_iff_right ?_).symm
    unfold doublings at early
    omega

/-- Each attempt doubles the delay of the one before, as far as that goes. -/
theorem baseDelay_next_iff (first : 1 ≤ policy.baseDelaySecs) (greatest : 1 ≤ policy.maxDelaySecs)
    (word : policy.maxDelaySecs ≤ maxInt64) (positive : 1 ≤ attempts) :
    policy.baseDelay (attempts + 1) = min (2 * policy.baseDelay attempts) policy.maxDelaySecs ↔
      attempts ≤ 32 ∨ policy.maxDelaySecs ≤ policy.baseDelaySecs * 2 ^ 32 := by
  have counts : doublings (attempts + 1) = doublings attempts + 1 := by
    unfold doublings
    omega
  rw [baseDelay_eq_doubled first word, baseDelay_eq_doubled first word, ← doubled_succ greatest,
    counts]
  by_cases early : doublings attempts < 32
  · rw [Nat.min_eq_left early, Nat.min_eq_left (Nat.le_of_lt early)]
    refine iff_of_true rfl (.inl ?_)
    unfold doublings at early
    omega
  · rw [Nat.min_eq_right (by omega), Nat.min_eq_right (by omega),
      doubled_eq_iff first (Nat.lt_succ_self 32)]
    refine (or_iff_right ?_).symm
    unfold doublings at early
    omega

/-- The delay in words: there is none if an operation overflows. -/
def baseDelay64? (policy : RetryPolicy) (attempts : Int) : Option Int :=
  policy.baseDelayBy word32? word64? attempts

theorem baseDelay64?_of_word (policy : RetryPolicy) (word : fitsInt32 attempts = true) :
    policy.baseDelay64? attempts = some (policy.baseDelay attempts) := by
  have exponent : fitsInt32 (max attempts 1 - 1) = true := by
    rw [fitsInt32_iff] at word
    refine fitsInt32_of_nonneg (by omega) ?_
    unfold maxInt32 at word ⊢
    omega
  have factor : Nat.pow 2 (min (max attempts 1 - 1) 32).toNat ≤ Nat.pow 2 32 :=
    Nat.pow_le_pow_right (by decide) (by omega)
  have fits : fitsInt64 (Nat.pow 2 (min (max attempts 1 - 1) 32).toNat) = true :=
    fitsInt64_of_nonneg (Int.natCast_nonneg _)
      (Int.le_trans (Int.ofNat_le.mpr factor) (by decide))
  rw [baseDelay64?, baseDelayBy, word32?_of_fits exponent, Option.bind_eq_bind, Option.bind_some,
    word64?_of_fits fits, Option.bind_some, baseDelay_eq]
  rfl

/-- How the delay grows with the attempts. It follows the doubling to the end unless the greatest delay
is more than thirty-two doublings away. -/
structure Grows (policy : RetryPolicy) (attempts : Int) : Prop where
  doubled_iff : policy.baseDelay attempts = policy.doubled (doublings attempts) ↔
    attempts ≤ 33 ∨ policy.maxDelaySecs ≤ policy.baseDelaySecs * 2 ^ 32
  value : policy.baseDelay attempts = policy.doubled (min (doublings attempts) 32)
  rising : ∀ later, attempts ≤ later → policy.baseDelay attempts ≤ policy.baseDelay later
  low : min policy.baseDelaySecs policy.maxDelaySecs ≤ policy.baseDelay attempts
  high : policy.baseDelay attempts ≤ policy.maxDelaySecs
  next_iff : 1 ≤ attempts →
    (policy.baseDelay (attempts + 1) = min (2 * policy.baseDelay attempts) policy.maxDelaySecs ↔
      attempts ≤ 32 ∨ policy.maxDelaySecs ≤ policy.baseDelaySecs * 2 ^ 32)
  words : policy.baseDelay64? attempts = some (policy.baseDelay attempts)

theorem delay_growth (first : 1 ≤ policy.baseDelaySecs) (greatest : 1 ≤ policy.maxDelaySecs)
    (word : policy.maxDelaySecs ≤ maxInt64) (count : fitsInt32 attempts = true) :
    policy.Grows attempts where
  doubled_iff := baseDelay_doubled_iff first word
  value := baseDelay_eq_doubled first word attempts
  rising later le := by
    rw [baseDelay_eq_doubled first word, baseDelay_eq_doubled first word]
    refine doubled_mono first ?_
    unfold doublings
    omega
  low := baseDelay_eq_doubled first word attempts ▸ min_le_doubled first _
  high := baseDelay_eq_doubled first word attempts ▸ doubled_le_max policy _
  next_iff := baseDelay_next_iff first greatest word
  words := baseDelay64?_of_word policy count

/-- With no greatest delay in reach, the thirty-fourth one is half of what the doubling asks for. -/
theorem delay_growth_stops :
    let policy : RetryPolicy := { baseDelaySecs := 1, maxDelaySecs := maxInt64 }
    1 ≤ policy.baseDelaySecs ∧ 1 ≤ policy.maxDelaySecs ∧ policy.maxDelaySecs ≤ maxInt64 ∧
      fitsInt32 34 = true ∧ policy.Grows 34 ∧ policy.baseDelay 34 = 4294967296 ∧
      policy.doubled (doublings 34) = 8589934592 := by
  intro policy
  have grows : policy.Grows 34 := delay_growth (by decide) (by decide) (by decide) (by decide)
  exact ⟨by decide, by decide, by decide, by decide, grows, grows.value.trans (by decide), by decide⟩

end RetryPolicy

end OutboxRelay
