import OutboxRelay.Instant.Basic

namespace OutboxRelay

namespace Instant

theorem le_iff {a b : Instant} :
    a.le b = true ↔ a.secs < b.secs ∨ a.secs = b.secs ∧ a.nanos ≤ b.nanos := by
  simp [le]

theorem lt_iff {a b : Instant} : a.lt b = true ↔ ¬ b.le a = true := by
  simp [lt]

theorem le_refl (a : Instant) : a.le a = true := by
  simp [le_iff]

theorem le_trans {a b c : Instant} (first : a.le b = true) (second : b.le c = true) :
    a.le c = true := by
  rw [le_iff] at *
  omega

theorem le_of_lt {a b : Instant} (before : a.lt b = true) : a.le b = true := by
  rw [lt_iff] at before
  rw [le_iff] at *
  omega

theorem lt_iff_secs {s t : Instant} :
    s.lt t = true ↔ s.secs < t.secs ∨ s.secs = t.secs ∧ s.nanos < t.nanos := by
  rw [lt_iff, le_iff]
  omega

theorem lt_trans {s t u : Instant} (first : s.lt t = true) (second : t.lt u = true) :
    s.lt u = true := by
  rw [lt_iff_secs] at *
  omega

theorem lt_or_eq_or_gt (s t : Instant) : s.lt t = true ∨ s = t ∨ t.lt s = true := by
  obtain ⟨_, _⟩ := s
  obtain ⟨_, _⟩ := t
  simp only [lt_iff_secs, mk.injEq]
  omega

/-- Instants outside leap seconds are ordered as their distances from the epoch are. -/
theorem le_iff_toNanos {a b : Instant} (ordinary : a.nanos < nanosPerSecond)
    (ordinary' : b.nanos < nanosPerSecond) : a.le b = true ↔ a.toNanos ≤ b.toNanos := by
  rw [le_iff, toNanos, toNanos]
  unfold nanosPerSecond at *
  omega

theorem ofNanos_ordinary (n : Int) : (ofNanos n).nanos < nanosPerSecond := by
  simp only [ofNanos, nanosPerSecond]
  omega

theorem toNanos_ofNanos (n : Int) : (ofNanos n).toNanos = n := by
  simp only [ofNanos, toNanos]
  omega

/-- Nanoseconds as a table keeps them. -/
def storedNanos (n : Int) : Int :=
  (n - storageEpochNanos).tdiv 1000 * 1000 + storageEpochNanos

theorem stored_eq (t : Instant) : t.stored = ofNanos (storedNanos t.toNanos) := rfl

theorem storedNanos_mono {m n : Int} (bound : m ≤ n) : storedNanos m ≤ storedNanos n := by
  unfold storedNanos
  have quotients : (m - storageEpochNanos).tdiv 1000 ≤ (n - storageEpochNanos).tdiv 1000 :=
    Int.tdiv_le_tdiv (by decide) (by omega)
  omega

theorem storedNanos_storedNanos (n : Int) : storedNanos (storedNanos n) = storedNanos n := by
  simp only [storedNanos, Int.add_sub_cancel, Int.mul_tdiv_cancel _ (by decide : (1000 : Int) ≠ 0)]

/-- A time that came out of a table goes in again unchanged. -/
@[simp] theorem stored_stored (t : Instant) : t.stored.stored = t.stored := by
  rw [stored_eq t, stored_eq, toNanos_ofNanos, storedNanos_storedNanos]

theorem stored_ordinary (t : Instant) : t.stored.nanos < nanosPerSecond :=
  ofNanos_ordinary _

theorem stored_le_stored {a b : Instant} (bound : a.toNanos ≤ b.toNanos) :
    a.stored.le b.stored = true := by
  rw [le_iff_toNanos (stored_ordinary a) (stored_ordinary b), stored_eq, stored_eq,
    toNanos_ofNanos, toNanos_ofNanos]
  exact storedNanos_mono bound

/-- Outside leap seconds a sum lies as far from the epoch as its parts together. -/
theorem toNanos_of_add? {t sum : Instant} {p : Period} (ordinary : t.nanos < nanosPerSecond)
    (added : t.add? p = some sum) : sum.toNanos = t.toNanos + p.nanos := by
  simp only [add?, if_pos ordinary] at added
  split at added
  · cases added
    exact toNanos_ofNanos _
  · cases added

/-- Outside leap seconds no sum with a length of time that is not negative lies before its start. -/
theorem stored_le_of_add? {t sum : Instant} {p : Period} (ordinary : t.nanos < nanosPerSecond)
    (nonneg : 0 ≤ p.nanos) (added : t.add? p = some sum) : t.stored.le sum.stored = true := by
  have total := toNanos_of_add? ordinary added
  exact stored_le_stored (by omega)

theorem storedNanos_lt {m n : Int} (apart : m + 2000 ≤ n) : storedNanos m < storedNanos n := by
  unfold storedNanos
  have first := Int.mul_tdiv_add_tmod (m - storageEpochNanos) 1000
  have second := Int.mul_tdiv_add_tmod (n - storageEpochNanos) 1000
  have low := Int.lt_tmod_of_pos (m - storageEpochNanos) (by decide : (0 : Int) < 1000)
  have high := Int.tmod_lt_of_pos (n - storageEpochNanos) (by decide : (0 : Int) < 1000)
  omega

/-- Two seconds lead out of any leap second, and so to a later time. -/
theorem stored_lt_of_add? {t sum : Instant} {p : Period} (long : 2000000000 ≤ p.nanos)
    (added : t.add? p = some sum) : t.stored.lt sum.stored = true := by
  have steps : 0 < p.nanos.tdiv 1000000000 := by
    rw [Int.tdiv_eq_ediv_of_nonneg (by omega)]
    omega
  have later : t.toNanos + 1000000000 ≤ sum.toNanos := by
    simp only [add?, if_pos (Or.inl steps)] at added
    obtain ⟨_, isSum⟩ := Option.ite_none_right_eq_some.mp added
    rw [← Option.some.inj isSum]
    split <;> rw [toNanos_ofNanos] <;> omega
  rw [lt_iff, le_iff_toNanos (stored_ordinary sum) (stored_ordinary t), stored_eq, stored_eq,
    toNanos_ofNanos, toNanos_ofNanos, Int.not_le]
  exact storedNanos_lt (by omega)

theorem isKnownAt_of_storable {t : Instant} (storable : t.isStorable = true) (clock : Instant) :
    t.isKnownAt clock = true := by
  rw [isKnownAt, storable, Bool.true_or]

/-- The clock of the tables adds nothing to what they know. -/
theorem isKnownAt_eq (t : Instant) {clock : Instant} (known : clock.isStorable = true) :
    t.isKnownAt clock = t.isStorable := by
  rw [isKnownAt, Bool.or_eq_left_iff_imp]
  exact fun later => le_trans known later

/-- The time of the tables' own clock is one that they know, and so is every later one. -/
theorem isKnownAt_of_le {t clock : Instant} (later : clock.stored.le t.stored = true) :
    t.isKnownAt clock = true := by
  rw [isKnownAt, later, Bool.or_true]

theorem isKnownAt_self (t : Instant) : t.isKnownAt t = true := isKnownAt_of_le (le_refl t.stored)

theorem isKnownAt_of_lt {t clock : Instant} (later : clock.stored.lt t.stored = true) :
    t.isKnownAt clock = true := isKnownAt_of_le (le_of_lt later)

end Instant

end OutboxRelay
