import OutboxRelay.Proofs.StoredTime
import OutboxRelay.Store.Endpoints
import OutboxRelay.Store.Outbox

namespace OutboxRelay

theorem Uuid.not_lt_trans {a b c : Uuid} (first : (!b.lt a) = true) (second : (!c.lt b) = true) :
    (!c.lt a) = true := by
  simp only [Uuid.lt, Bool.not_eq_true', decide_eq_false_iff_not] at *
  omega

theorem Uuid.not_lt_total (a b : Uuid) : (!b.lt a || !a.lt b) = true := by
  simp only [Uuid.lt, Bool.or_eq_true, Bool.not_eq_true', decide_eq_false_iff_not]
  omega

theorem Uuid.lt_of_not_lt {a b : Uuid} (order : (!b.lt a) = true) (different : a ≠ b) :
    a.lt b = true := by
  simp only [Uuid.lt, Bool.not_eq_true', decide_eq_false_iff_not, decide_eq_true_eq] at *
  refine Nat.lt_of_le_of_ne (Nat.not_lt.mp order) fun same => different ?_
  obtain ⟨_⟩ := a
  obtain ⟨_⟩ := b
  exact congrArg Uuid.mk (BitVec.eq_of_toNat_eq same)

theorem Uuid.mergeSort_sorted {α : Type} (key : α → Uuid) (xs : List α) :
    (xs.mergeSort fun a b => !(key b).lt (key a)).Pairwise fun a b =>
      (!(key b).lt (key a)) = true := by
  refine List.pairwise_mergeSort ?_ ?_ _
  · exact fun _ _ _ => not_lt_trans
  · exact fun a b => not_lt_total (key a) (key b)

namespace OutboxEntry

theorem scheduledBefore_trans (a b c : OutboxEntry) (first : a.scheduledBefore b = true)
    (second : b.scheduledBefore c = true) : a.scheduledBefore c = true := by
  unfold scheduledBefore at *
  have ids : (!b.id.lt a.id) = true → (!c.id.lt b.id) = true → (!c.id.lt a.id) = true :=
    Uuid.not_lt_trans
  generalize a.nextAttemptAt = s, b.nextAttemptAt = t, c.nextAttemptAt = u at *
  cases s with
  | none =>
    cases t with
    | none => cases u with
      | none => exact ids first second
      | some u => exact second
    | some t => cases first
  | some s =>
    cases u with
    | none => rfl
    | some u =>
      cases t with
      | none => cases second
      | some t =>
        simp only [Bool.or_eq_true, Bool.and_eq_true, decide_eq_true_eq] at first second ⊢
        rcases first with before | ⟨rfl, order⟩
        · rcases second with before' | ⟨rfl, _⟩
          · exact .inl (Instant.lt_trans before before')
          · exact .inl before
        · rcases second with before' | ⟨rfl, order'⟩
          · exact .inl before'
          · exact .inr ⟨rfl, ids order order'⟩

theorem scheduledBefore_total (a b : OutboxEntry) :
    (a.scheduledBefore b || b.scheduledBefore a) = true := by
  unfold scheduledBefore
  have ids := Uuid.not_lt_total a.id b.id
  generalize a.nextAttemptAt = s, b.nextAttemptAt = t
  cases s with
  | none => cases t with
    | none => exact ids
    | some t => rfl
  | some s =>
    cases t with
    | none => rfl
    | some t =>
      simp only [Bool.or_eq_true, Bool.and_eq_true, decide_eq_true_eq] at ids ⊢
      rcases Instant.lt_or_eq_or_gt s t with before | same | after
      · exact .inl (.inl before)
      · rcases ids with order | order
        · exact .inl (.inr ⟨same, order⟩)
        · exact .inr (.inr ⟨same.symm, order⟩)
      · exact .inr (.inl after)

/-- First by schedule, then by identifier. -/
def Precedes (a b : OutboxEntry) : Prop :=
  ∀ s t, a.nextAttemptAt = some s → b.nextAttemptAt = some t →
    s.lt t = true ∨ s = t ∧ a.id.bits.toNat ≤ b.id.bits.toNat

theorem Precedes.of_scheduledBefore {a b : OutboxEntry} (before : a.scheduledBefore b = true) :
    a.Precedes b := by
  intro s t scheduled scheduled'
  unfold scheduledBefore at before
  rw [scheduled, scheduled'] at before
  simpa only [Uuid.lt, Bool.or_eq_true, Bool.and_eq_true, decide_eq_true_eq, Bool.not_eq_true',
    decide_eq_false_iff_not, Nat.not_lt] using before

end OutboxEntry

theorem OutboxRows.due_perm (rows : OutboxRows) (now : Instant) :
    (rows.due now).Perm (rows.filter (·.isDue now.stored)) :=
  List.mergeSort_perm _ _

theorem OutboxRows.due_sorted (rows : OutboxRows) (now : Instant) :
    (rows.due now).Pairwise OutboxEntry.Precedes :=
  (List.pairwise_mergeSort OutboxEntry.scheduledBefore_trans OutboxEntry.scheduledBefore_total
    _).imp OutboxEntry.Precedes.of_scheduledBefore

namespace EndpointRows

theorem listActive_perm (rows : EndpointRows) :
    rows.listActive.Perm (rows.filter (·.isActive)) :=
  List.mergeSort_perm _ _

theorem listActive_sorted (rows : EndpointRows) :
    rows.listActive.Pairwise fun a b => a.id.bits.toNat ≤ b.id.bits.toNat := by
  refine (Uuid.mergeSort_sorted WebhookEndpoint.id _).imp fun {a b} order => ?_
  simpa only [Uuid.lt, Bool.not_eq_true', decide_eq_false_iff_not, Nat.not_lt] using order

end EndpointRows

end OutboxRelay
