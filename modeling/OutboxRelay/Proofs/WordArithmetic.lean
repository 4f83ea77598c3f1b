import OutboxRelay.Retry

namespace OutboxRelay

/-! Arithmetic of signed words. An operation has a result where the exact one fits. -/

def word32? (n : Int) : Option Int := if fitsInt32 n then some n else none

def word64? (n : Int) : Option Int := if fitsInt64 n then some n else none

/-- The quotient toward zero. There is none by zero, and that of the least word by minus one is too
great. -/
def quotient64? (a b : Int) : Option Int := if b = 0 then none else word64? (a.tdiv b)

/-- What the quotient toward zero leaves over. -/
def remainder64? (a b : Int) : Option Int := (quotient64? a b).bind fun _ => word64? (a.tmod b)

theorem word32?_of_fits {n : Int} (fits : fitsInt32 n = true) : word32? n = some n := if_pos fits

theorem word64?_of_fits {n : Int} (fits : fitsInt64 n = true) : word64? n = some n := if_pos fits

theorem fitsInt32_iff {n : Int} : fitsInt32 n = true ↔ minInt32 ≤ n ∧ n ≤ maxInt32 := by
  rw [fitsInt32, Bool.and_eq_true, decide_eq_true_eq, decide_eq_true_eq]

theorem fitsInt64_iff {n : Int} : fitsInt64 n = true ↔ minInt64 ≤ n ∧ n ≤ maxInt64 := by
  rw [fitsInt64, Bool.and_eq_true, decide_eq_true_eq, decide_eq_true_eq]

theorem fitsInt32_of_nonneg {n : Int} (low : 0 ≤ n) (high : n ≤ maxInt32) : fitsInt32 n = true :=
  fitsInt32_iff.mpr ⟨Int.le_trans (by decide) low, high⟩

theorem fitsInt64_of_nonneg {n : Int} (low : 0 ≤ n) (high : n ≤ maxInt64) : fitsInt64 n = true :=
  fitsInt64_iff.mpr ⟨Int.le_trans (by decide) low, high⟩

section Division
variable {a b : Int} (nonneg : 0 ≤ a) (fits : a ≤ maxInt64) (positive : 0 < b)
include nonneg fits positive

theorem quotient64?_of_pos : quotient64? a b = some (a / b) := by
  have low := Int.ediv_nonneg nonneg (Int.le_of_lt positive)
  have high := Int.ediv_le_self b nonneg
  rw [quotient64?, if_neg (Int.ne_of_gt positive), Int.tdiv_eq_ediv_of_nonneg nonneg,
    word64?_of_fits (fitsInt64_of_nonneg low (Int.le_trans high fits))]

theorem remainder64?_of_pos : remainder64? a b = some (a % b) := by
  have division := Int.mul_ediv_add_emod a b
  have carried := Int.mul_nonneg (Int.le_of_lt positive)
    (Int.ediv_nonneg nonneg (Int.le_of_lt positive))
  have low := Int.emod_nonneg a (Int.ne_of_gt positive)
  have high : a % b ≤ a := by omega
  rw [remainder64?, quotient64?_of_pos nonneg fits positive, Option.bind_some,
    Int.tmod_eq_emod_of_nonneg nonneg,
    word64?_of_fits (fitsInt64_of_nonneg low (Int.le_trans high fits))]

end Division

/-- What is cut to a word at the top makes no difference below a bound that is a word. -/
theorem min_clampInt64 {n bound : Int} (nonneg : 0 ≤ n) (fits : bound ≤ maxInt64) :
    min (clampInt64 n) bound = min n bound := by
  unfold clampInt64 minInt64
  omega

end OutboxRelay
