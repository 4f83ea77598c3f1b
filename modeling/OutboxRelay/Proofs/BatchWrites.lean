import OutboxRelay.Proofs.ClaimExclusion
import OutboxRelay.Proofs.GuardedWrites
import OutboxRelay.Proofs.Tracking

namespace OutboxRelay

theorem exists_related {α β : Type} {R : α → β → Prop} {xs : List α} {ys : List β}
    (all : List.Forall₂ R xs ys) {y : β} (member : y ∈ ys) : ∃ x ∈ xs, R x y := by
  induction all with
  | nil => cases member
  | cons head _ ih =>
    rcases List.mem_cons.mp member with rfl | later
    · exact ⟨_, List.mem_cons_self, head⟩
    · obtain ⟨x, inRest, related⟩ := ih later
      exact ⟨x, List.mem_cons_of_mem _ inRest, related⟩

theorem exists_related_right {α β : Type} {R : α → β → Prop} {xs : List α} {ys : List β}
    (all : List.Forall₂ R xs ys) {x : α} (member : x ∈ xs) : ∃ y ∈ ys, R x y :=
  exists_related (R := flip R) (List.Forall₂.flip (R := flip R) all) member

theorem attempted_ids {entries : List OutboxEntry} {transitions : List EntryTransition}
    (all : List.Forall₂ OutboxEntry.Attempted entries transitions) :
    transitions.map (·.id) = entries.map (·.id) := by
  induction all with
  | nil => rfl
  | cons head _ ih => rw [List.map_cons, List.map_cons, head.id, ih]

theorem attempted_distinct {entries : List OutboxEntry} {transitions : List EntryTransition}
    (all : List.Forall₂ OutboxEntry.Attempted entries transitions)
    (distinct : entries.Pairwise fun a b => a.id ≠ b.id) :
    transitions.Pairwise fun a b => a.id ≠ b.id := by
  rw [← List.pairwise_map (f := fun t : EntryTransition => t.id) (R := (· ≠ ·)),
    attempted_ids all, List.pairwise_map]
  exact distinct

/-- The copies behind the transitions are among all that were fetched. -/
theorem attempted_held {copies attempted deferred : List OutboxEntry}
    {transitions : List EntryTransition}
    (all : List.Forall₂ OutboxEntry.Attempted attempted transitions) :
    ∀ t ∈ transitions, ∃ entry ∈ copies ++ (attempted ++ deferred), entry.Attempted t := by
  intro t member
  obtain ⟨entry, inAttempted, came⟩ := exists_related all member
  exact ⟨entry, List.mem_append_right _ (List.mem_append_left _ inAttempted), came⟩

namespace OutboxRows
variable {rows claimed : OutboxRows} {serial : Nat} {copies attempted deferred : List OutboxEntry}
  {time clock claimEnd : Instant} {limit : Int} {lease : Period}
  {transitions : List EntryTransition}

/-- The row that a fetch leaves for an entry. -/
theorem Consistent.eq_claim {entries : List OutboxEntry} {entry row : OutboxEntry}
    (consistent : rows.Consistent)
    (fetched : rows.fetchDue time limit lease clock = .ok (entries, claimed))
    (ends : time.add? lease = some claimEnd) (taken : entry ∈ entries) (member : row ∈ claimed)
    (same : row.id = entry.id) : row = claim claimEnd clock entry := by
  have inRows := (due_of_fetched fetched taken).1
  have picked := consistent.mem_fetched fetched inRows
  obtain ⟨claimEnd', ends', _, _, rfl⟩ := fetchDue_eq_ok_iff.mp fetched
  cases ends.symm.trans ends'
  obtain ⟨old, inOld, rfl⟩ := List.mem_map.mp member
  have isOld : old = entry := by
    refine consistent.eq_of_id inOld inRows ?_
    rw [← same]
    split <;> rfl
  rw [isOld, if_pos (picked.mpr taken)]

theorem Consistent.claim_mem {entries : List OutboxEntry} {entry : OutboxEntry}
    (consistent : rows.Consistent)
    (fetched : rows.fetchDue time limit lease clock = .ok (entries, claimed))
    (ends : time.add? lease = some claimEnd) (taken : entry ∈ entries) :
    claim claimEnd clock entry ∈ claimed := by
  obtain ⟨row, member, same, _⟩ := hidden_of_fetched fetched ends taken
  exact consistent.eq_claim fetched ends taken member same ▸ member

theorem isUntouched_claim {entry : OutboxEntry} (pending : entry.status = .pending) :
    isUntouched entry.id entry.attempts (claim claimEnd clock entry) = true :=
  isUntouched_iff.mpr ⟨rfl, pending, rfl⟩

/-- Right after a fetch the rows of its entries are as the copies say. -/
theorem Consistent.untouched_of_claimed {entries : List OutboxEntry} {entry row : OutboxEntry}
    (consistent : rows.Consistent)
    (fetched : rows.fetchDue time limit lease clock = .ok (entries, claimed))
    (taken : entry ∈ entries) (member : row ∈ claimed) (same : row.id = entry.id) :
    isUntouched entry.id entry.attempts row = true := by
  obtain ⟨_, ends, _⟩ := fetchDue_eq_ok_iff.mp fetched
  rw [consistent.eq_claim fetched ends taken member same]
  exact isUntouched_claim (OutboxEntry.pending_of_isDue (due_of_fetched fetched taken).2)

theorem giveBack_keeps (copies : List OutboxEntry) (clock : Instant) :
    ∀ w ∈ copies.map (GuardedWrite.giveBack clock), ∀ row, (w.change row).id = row.id := by
  intro w member row
  obtain ⟨copy, _, rfl⟩ := List.mem_map.mp member
  rfl

theorem settling_keeps (transitions : List EntryTransition) (clock : Instant) :
    ∀ w ∈ transitions.map (GuardedWrite.settling clock), ∀ row, (w.change row).id = row.id := by
  intro w member row
  obtain ⟨t, _, rfl⟩ := List.mem_map.mp member
  rfl

/-- Transitions of other entries pass a row by. -/
theorem rewrite_settling_of_ne {row : OutboxEntry}
    (all : List.Forall₂ OutboxEntry.Attempted attempted transitions)
    (other : ∀ entry ∈ attempted, entry.id ≠ row.id) :
    rewrite (transitions.map (.settling clock)) row = row := by
  refine rewrite_of_not_mem fun w member => ?_
  obtain ⟨t, inTransitions, rfl⟩ := List.mem_map.mp member
  obtain ⟨entry, inAttempted, came⟩ := exists_related all inTransitions
  exact fun same => other entry inAttempted (came.id.symm.trans same)

/-- The rows that a fetch left, once the transitions are written and the other entries given back. -/
def writtenBack (claimed : OutboxRows) (transitions : List EntryTransition)
    (deferred : List OutboxEntry) (settling giving : Instant) : OutboxRows :=
  claimed.map fun row => rewrite (deferred.map (.giveBack giving))
    (rewrite (transitions.map (.settling settling)) row)

/-- After a fetch that nobody interferes with, the attempts at the first entries all land. -/
theorem settle_batch (consistent : rows.Consistent) (tracked : rows.Tracked serial copies)
    (fetched : rows.fetchDue time limit lease clock = .ok (attempted ++ deferred, claimed))
    (all : List.Forall₂ OutboxEntry.Attempted attempted transitions)
    (messages : ∀ t ∈ transitions, hasNull t.errorMessage = false) (settling : Instant) :
    claimed.applyTransitions transitions settling = .ok (transitions.map (·.id),
      claimed.map (rewrite (transitions.map (.settling settling)))) := by
  obtain ⟨claimEnd, ends, _⟩ := fetchDue_eq_ok_iff.mp fetched
  have distinct := (List.pairwise_append.mp (consistent.fetched_distinct fetched)).1
  have distinct' := attempted_distinct all distinct
  -- the row of each transition is as the fetch left it
  have untouched : ∀ t ∈ transitions, ∀ row ∈ claimed, row.id = t.id →
      isUntouched t.id t.previousAttempts row = true := by
    intro t member row inRows same
    obtain ⟨entry, inAttempted, came⟩ := exists_related all member
    have taken : entry ∈ attempted ++ deferred := List.mem_append_left _ inAttempted
    rw [came.id] at same
    rw [came.id, came.previousAttempts]
    exact consistent.untouched_of_claimed fetched taken inRows same
  have present : ∀ t ∈ transitions, ∃ row ∈ claimed,
      isUntouched t.id t.previousAttempts row = true := by
    intro t member
    obtain ⟨entry, inAttempted, came⟩ := exists_related all member
    have inRows := consistent.claim_mem fetched ends (List.mem_append_left deferred inAttempted)
    exact ⟨_, inRows, untouched t member _ inRows came.id.symm⟩
  cases applied : claimed.applyTransitions transitions settling with
  | error e =>
    obtain ⟨_, t, member, null⟩ := (tracked.fetchDue consistent fetched).applyTransitions_error
      (consistent.fetchDue fetched) (attempted_held all) applied
    rw [messages t member] at null
    cases null
  | ok result =>
    obtain ⟨ids, settled⟩ := result
    rw [applyTransitions_ids applied distinct' present, applyTransitions_eq_writes applied,
      foldl_write (List.pairwise_map.mpr distinct') (settling_keeps transitions settling)]
    intro w member row inRows same
    obtain ⟨t, inTransitions, rfl⟩ := List.mem_map.mp member
    exact untouched t inTransitions row inRows same

/-- Then the others all get their schedule back. -/
theorem release_batch (consistent : rows.Consistent) (tracked : rows.Tracked serial copies)
    (fetched : rows.fetchDue time limit lease clock = .ok (attempted ++ deferred, claimed))
    (all : List.Forall₂ OutboxEntry.Attempted attempted transitions)
    (messages : ∀ t ∈ transitions, hasNull t.errorMessage = false) (settling giving : Instant) :
    ∃ count, release (claimed.map (rewrite (transitions.map (.settling settling)))) deferred
      giving = .ok (count, writtenBack claimed transitions deferred settling giving) := by
  have settled := settle_batch consistent tracked fetched all messages settling
  obtain ⟨claimEnd, ends, _⟩ := fetchDue_eq_ok_iff.mp fetched
  obtain ⟨_, distinct, apart⟩ :=
    List.pairwise_append.mp (consistent.fetched_distinct fetched)
  have tracked' := (tracked.fetchDue consistent fetched).applyTransitions (attempted_held all) settled
  have consistent' := (consistent.fetchDue fetched).applyTransitions settled
  obtain ⟨count, released, gave⟩ := tracked'.release_ok consistent'
    (fun entry member => List.mem_append_right _ (List.mem_append_right _ member)) giving
  refine ⟨count, gave.trans ?_⟩
  rw [release_eq_writes gave, foldl_write (List.pairwise_map.mpr distinct)
    (giveBack_keeps deferred giving), List.map_map]
  · rfl
  · intro w member row inRows same
    obtain ⟨entry, inDeferred, rfl⟩ := List.mem_map.mp member
    obtain ⟨old, inOld, rfl⟩ := List.mem_map.mp inRows
    have taken : entry ∈ attempted ++ deferred := List.mem_append_right _ inDeferred
    rw [rewrite_id (settling_keeps transitions settling)] at same
    rw [rewrite_settling_of_ne all]
    · exact consistent.untouched_of_claimed fetched taken inOld same
    · intro other inAttempted
      rw [same]
      exact apart other inAttempted entry inDeferred

section
variable {settling giving : Instant} {entry : OutboxEntry}

theorem writtenBack_ids
    (fetched : rows.fetchDue time limit lease clock = .ok (attempted ++ deferred, claimed)) :
    (writtenBack claimed transitions deferred settling giving).map (·.id) = rows.map (·.id) := by
  obtain ⟨_, _, _, _, rfl⟩ := fetchDue_eq_ok_iff.mp fetched
  rw [writtenBack, List.map_map, List.map_map]
  refine List.map_congr_left fun row _ => ?_
  simp only [Function.comp_apply, rewrite_id (giveBack_keeps _ giving),
    rewrite_id (settling_keeps _ settling)]
  split <;> rfl

/-- The row of an entry after its attempt. -/
theorem Consistent.attempted_mem (consistent : rows.Consistent)
    (fetched : rows.fetchDue time limit lease clock = .ok (attempted ++ deferred, claimed))
    (ends : time.add? lease = some claimEnd)
    (all : List.Forall₂ OutboxEntry.Attempted attempted transitions) {t : EntryTransition}
    (inAttempted : entry ∈ attempted) (inTransitions : t ∈ transitions) (same : t.id = entry.id) :
    settle t settling (claim claimEnd clock entry) ∈
      writtenBack claimed transitions deferred settling giving := by
  obtain ⟨distinct, _, apart⟩ := List.pairwise_append.mp (consistent.fetched_distinct fetched)
  refine List.mem_map.mpr
    ⟨_, consistent.claim_mem fetched ends (List.mem_append_left _ inAttempted), ?_⟩
  have landed : rewrite (transitions.map (.settling settling)) (claim claimEnd clock entry) =
      settle t settling (claim claimEnd clock entry) :=
    rewrite_of_mem (List.pairwise_map.mpr (attempted_distinct all distinct))
      (List.mem_map_of_mem inTransitions) same.symm
  rw [landed]
  refine rewrite_of_not_mem fun w member => ?_
  obtain ⟨other, later, rfl⟩ := List.mem_map.mp member
  exact (apart entry inAttempted other later).symm

/-- An entry that was not attempted is as it was before the fetch. -/
theorem Consistent.deferred_mem (consistent : rows.Consistent)
    (fetched : rows.fetchDue time limit lease clock = .ok (attempted ++ deferred, claimed))
    (all : List.Forall₂ OutboxEntry.Attempted attempted transitions)
    (inDeferred : entry ∈ deferred) :
    ({ entry with updatedAt := giving } : OutboxEntry) ∈
      writtenBack claimed transitions deferred settling giving := by
  obtain ⟨claimEnd, ends, _⟩ := fetchDue_eq_ok_iff.mp fetched
  obtain ⟨_, distinct, apart⟩ := List.pairwise_append.mp (consistent.fetched_distinct fetched)
  have taken : entry ∈ attempted ++ deferred := List.mem_append_right _ inDeferred
  refine List.mem_map.mpr ⟨_, consistent.claim_mem fetched ends taken, ?_⟩
  have passed : rewrite (transitions.map (.settling settling)) (claim claimEnd clock entry) =
      claim claimEnd clock entry :=
    rewrite_settling_of_ne all fun other earlier => apart other earlier entry inDeferred
  rw [passed, rewrite_of_mem (List.pairwise_map.mpr distinct) (List.mem_map_of_mem inDeferred) rfl]
  change restore entry giving (claim claimEnd clock entry) = _
  rw [restore, consistent.stored entry (due_of_fetched fetched taken).1]
  rfl

/-- No other row is touched. -/
theorem Consistent.unfetched_mem (consistent : rows.Consistent)
    (fetched : rows.fetchDue time limit lease clock = .ok (attempted ++ deferred, claimed))
    (all : List.Forall₂ OutboxEntry.Attempted attempted transitions) (member : entry ∈ rows)
    (unfetched : entry ∉ attempted ++ deferred) :
    entry ∈ writtenBack claimed transitions deferred settling giving := by
  have unclaimed : entry ∈ claimed := by
    have picked := mt (consistent.mem_fetched fetched member).mp unfetched
    obtain ⟨_, _, _, _, rfl⟩ := fetchDue_eq_ok_iff.mp fetched
    exact List.mem_map.mpr ⟨entry, member, if_neg picked⟩
  have different : ∀ other ∈ attempted ++ deferred, other.id ≠ entry.id :=
    fun other taken same => unfetched
      (consistent.eq_of_id member (due_of_fetched fetched taken).1 same.symm ▸ taken)
  refine List.mem_map.mpr ⟨entry, unclaimed, ?_⟩
  rw [rewrite_settling_of_ne all fun other earlier =>
    different other (List.mem_append_left _ earlier)]
  refine rewrite_of_not_mem fun w inWrites => ?_
  obtain ⟨other, later, rfl⟩ := List.mem_map.mp inWrites
  exact different other (List.mem_append_right _ later)

end

end OutboxRows

end OutboxRelay
