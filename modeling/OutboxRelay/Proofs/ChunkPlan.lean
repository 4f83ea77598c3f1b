import Mathlib.Algebra.BigOperators.Group.Finset.Basic
import Mathlib.Algebra.Order.BigOperators.Group.List
import OutboxRelay.Proofs.SessionStep

namespace OutboxRelay

namespace UploadSession

/-- Where the part of a number begins. -/
def offset (session : UploadSession) (number : Int) : Int :=
  (number - 1) * session.chunkSizeBytes

/-- How many octets the part of a number has: a chunk, or what is left. -/
def length (session : UploadSession) (number : Int) : Int :=
  min session.chunkSizeBytes (session.totalSizeBytes - session.offset number)

theorem offset_succ (session : UploadSession) (number : Int) :
    session.offset (number + 1) = session.offset number + session.chunkSizeBytes := by
  unfold offset
  ring

theorem end_le (session : UploadSession) (number : Int) :
    session.offset number + session.length number ≤ session.totalSizeBytes := by
  unfold length
  omega

/-- The numbers of the parts. -/
def numbers (session : UploadSession) : List Int :=
  (List.range session.totalParts.toNat).map fun i : Nat => (i : Int) + 1

theorem mem_numbers {session : UploadSession} {number : Int} :
    number ∈ session.numbers ↔ 1 ≤ number ∧ number ≤ session.totalParts := by
  simp only [numbers, List.mem_map, List.mem_range]
  constructor
  · rintro ⟨i, below, rfl⟩
    omega
  · rintro ⟨low, high⟩
    exact ⟨(number - 1).toNat, by omega, by omega⟩

theorem length_numbers {session : UploadSession} (nonneg : 0 ≤ session.totalParts) :
    (session.numbers.length : Int) = session.totalParts := by
  rw [numbers, List.length_map, List.length_range]
  omega

namespace Planned
variable {session : UploadSession} {number : Int}

/-- The parts are the fewest whose chunks hold everything. -/
theorem bounds (planned : session.Planned) :
    session.offset session.totalParts < session.totalSizeBytes ∧
      session.totalSizeBytes ≤ session.totalParts * session.chunkSizeBytes := by
  have positive : (0 : ℚ) < session.chunkSizeBytes := by exact_mod_cast planned.chunk
  obtain ⟨above, below⟩ := Int.ceil_eq_iff.mp planned.parts.symm
  rw [lt_div_iff₀ positive] at above
  rw [div_le_iff₀ positive] at below
  unfold offset
  exact ⟨by exact_mod_cast above, by exact_mod_cast below⟩

theorem totalParts_nonneg (planned : session.Planned) : 0 ≤ session.totalParts := by
  have positive := planned.chunk
  have total := planned.total
  have enough := planned.bounds.2
  exact Int.not_lt.mp fun negative => absurd (Int.mul_neg_of_neg_of_pos negative positive) (by omega)

theorem offset_nonneg (planned : session.Planned) (low : 1 ≤ number) : 0 ≤ session.offset number :=
  Int.mul_nonneg (by omega) (Int.le_of_lt planned.chunk)

/-- Every part begins within the file. -/
theorem offset_lt (planned : session.Planned) (high : number ≤ session.totalParts) :
    session.offset number < session.totalSizeBytes := by
  refine Int.lt_of_le_of_lt ?_ planned.bounds.1
  exact Int.mul_le_mul_of_nonneg_right (by omega) (Int.le_of_lt planned.chunk)

theorem length_pos (planned : session.Planned) (high : number ≤ session.totalParts) :
    1 ≤ session.length number := by
  have positive := planned.chunk
  have left := planned.offset_lt high
  unfold length
  omega

/-- Every octet of the file is in exactly one part. -/
theorem covers (planned : session.Planned) {octet : Int} (low : 0 ≤ octet)
    (high : octet < session.totalSizeBytes) :
    ∃! number, (1 ≤ number ∧ number ≤ session.totalParts) ∧
      session.offset number ≤ octet ∧ octet < session.offset number + session.length number := by
  have positive := planned.chunk
  -- the octet is in the part whose number its quotient tells
  have isIn : ∀ number, session.offset number ≤ octet ∧
      octet < session.offset number + session.length number ↔
      number = octet / session.chunkSizeBytes + 1 := by
    intro number
    have quotient : octet / session.chunkSizeBytes = number - 1 ↔
        session.offset number ≤ octet ∧
          octet < session.offset number + session.chunkSizeBytes :=
      Int.ediv_eq_iff_of_pos positive
    unfold length
    omega
  refine ⟨octet / session.chunkSizeBytes + 1, ⟨⟨?_, ?_⟩, (isIn _).mpr rfl⟩, fun other all =>
    (isIn other).mp all.2⟩
  · have quotient := Int.ediv_nonneg low (Int.le_of_lt positive)
    omega
  · have enough := planned.bounds.2
    exact Int.ediv_lt_of_lt_mul positive (by omega)

/-- The first parts together are as long as their chunks, unless the file ends before. -/
theorem sum_range (planned : session.Planned) (count : Nat) (within : count ≤ session.totalParts) :
    ((List.range count).map fun i : Nat => session.length ((i : Int) + 1)).sum =
      min (session.offset (count + 1)) session.totalSizeBytes := by
  induction count with
  | zero =>
    have total := planned.total
    simp only [List.range_zero, List.map_nil, List.sum_nil, offset, Nat.cast_zero]
    omega
  | succ count ih =>
    have before : session.offset ((count : Int) + 1) < session.totalSizeBytes :=
      planned.offset_lt (by omega)
    have next := session.offset_succ ((count : Int) + 1)
    rw [List.range_succ, List.map_append, List.sum_append, List.map_singleton, List.sum_singleton,
      ih (by omega), length, Nat.cast_succ, next]
    omega

/-- All parts together are as long as the file. -/
theorem sum_numbers (planned : session.Planned) :
    (session.numbers.map session.length).sum = session.totalSizeBytes := by
  have nonneg := planned.totalParts_nonneg
  have all := planned.sum_range session.totalParts.toNat (by omega)
  have isLast : ((session.totalParts.toNat : Int) + 1 - 1) = session.totalParts := by omega
  have enough := planned.bounds.2
  rw [offset, isLast, Int.min_eq_right enough] at all
  rw [numbers, List.map_map]
  exact all

variable {chosen : List Int}

/-- Some of the parts are together no longer than the file. -/
theorem sum_le (planned : session.Planned) (distinct : chosen.Nodup)
    (inRange : ∀ number ∈ chosen, 1 ≤ number ∧ number ≤ session.totalParts) :
    (chosen.map session.length).sum ≤ session.totalSizeBytes := by
  obtain ⟨sub, perm, within⟩ := distinct.subperm fun number member =>
    mem_numbers.mpr (inRange number member)
  rw [← (perm.map session.length).sum_eq, ← planned.sum_numbers]
  refine (within.map session.length).sum_le_sum fun size member => ?_
  obtain ⟨number, isNumber, rfl⟩ := List.mem_map.mp member
  have positive := planned.length_pos (mem_numbers.mp isNumber).2
  omega

end Planned

end UploadSession

/-- The number of parts is a number of thirty-two bits. -/
theorem totalParts_le {total parts : Int} {chunk : Option Int}
    (planned : totalParts total chunk = .ok parts) : parts ≤ maxInt32 := by
  unfold totalParts at planned
  dsimp only at planned
  split at planned
  · cases planned
  · split at planned
    · cases planned
    · obtain ⟨fits, isParts⟩ | ⟨_, failed⟩ := ite_eq_iff.mp planned
      · rwa [← Except.ok.inj isParts]
      · cases failed

end OutboxRelay
