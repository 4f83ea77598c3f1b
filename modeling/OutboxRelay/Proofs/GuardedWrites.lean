import OutboxRelay.Proofs.TableConsistency

namespace OutboxRelay

/-- A write that reaches the row of an identifier as long as it is pending with a number of
attempts. -/
structure GuardedWrite where
  id : Uuid
  attempts : Int
  change : OutboxEntry → OutboxEntry

/-- Gives a copy its schedule back. -/
def GuardedWrite.giveBack (clock : Instant) (copy : OutboxEntry) : GuardedWrite :=
  ⟨copy.id, copy.attempts, OutboxRows.restore copy clock⟩

def GuardedWrite.settling (clock : Instant) (t : EntryTransition) : GuardedWrite :=
  ⟨t.id, t.previousAttempts, OutboxRows.settle t clock⟩

theorem find?_of_distinct {α : Type} {key : α → Uuid} {xs : List α} {x : α}
    (distinct : xs.Pairwise fun a b => key a ≠ key b) (member : x ∈ xs) :
    xs.find? (fun y => key y = key x) = some x := by
  induction xs with
  | nil => cases member
  | cons y rest ih =>
    obtain ⟨head, tail⟩ := List.pairwise_cons.mp distinct
    rcases List.mem_cons.mp member with same | later
    · subst same
      exact List.find?_cons_of_pos (decide_eq_true rfl)
    · rw [List.find?_cons_of_neg (by simpa only [decide_eq_true_eq] using head x later)]
      exact ih tail later

namespace OutboxRows

/-- The rows after a guarded write that no check refuses. -/
def write (rows : OutboxRows) (w : GuardedWrite) : OutboxRows :=
  rows.map fun row => if isUntouched w.id w.attempts row then w.change row else row

/-- A row after the first of the writes that is meant for it. -/
def rewrite (writes : List GuardedWrite) (row : OutboxEntry) : OutboxEntry :=
  (writes.find? (·.id = row.id)).elim row (·.change row)

variable {rows rows' : OutboxRows} {clock : Instant}

theorem rewrite_of_mem {writes : List GuardedWrite} {w : GuardedWrite} {row : OutboxEntry}
    (distinct : writes.Pairwise fun a b => a.id ≠ b.id) (member : w ∈ writes)
    (same : row.id = w.id) : rewrite writes row = w.change row := by
  rw [rewrite, same, find?_of_distinct distinct member, Option.elim_some]

theorem rewrite_of_not_mem {writes : List GuardedWrite} {row : OutboxEntry}
    (other : ∀ w ∈ writes, w.id ≠ row.id) : rewrite writes row = row := by
  have none : writes.find? (·.id = row.id) = none := by
    simpa only [List.find?_eq_none, decide_eq_true_eq] using other
  rw [rewrite, none, Option.elim_none]

theorem rewrite_id {writes : List GuardedWrite}
    (keeps : ∀ w ∈ writes, ∀ row, (w.change row).id = row.id) (row : OutboxEntry) :
    (rewrite writes row).id = row.id := by
  unfold rewrite
  cases found : writes.find? (·.id = row.id) with
  | none => rfl
  | some w => exact keeps w (List.mem_of_find?_eq_some found) row

/-- Writes to different rows that are all as expected reach each row at once. -/
theorem foldl_write {writes : List GuardedWrite}
    (distinct : writes.Pairwise fun a b => a.id ≠ b.id)
    (keeps : ∀ w ∈ writes, ∀ row, (w.change row).id = row.id)
    (current : ∀ w ∈ writes, ∀ row ∈ rows, row.id = w.id → isUntouched w.id w.attempts row = true) :
    writes.foldl write rows = rows.map (rewrite writes) := by
  induction writes generalizing rows with
  | nil =>
    have same : rewrite [] = id := funext fun _ => rfl
    rw [List.foldl_nil, same, List.map_id]
  | cons w rest ih =>
    obtain ⟨others, distinct'⟩ := List.pairwise_cons.mp distinct
    have reached : ∀ row ∈ rows, isUntouched w.id w.attempts row = true ↔ row.id = w.id :=
      fun row member => ⟨fun untouched => (isUntouched_iff.mp untouched).1,
        current w List.mem_cons_self row member⟩
    have unreached : ∀ row, row.id ≠ w.id → ¬ isUntouched w.id w.attempts row = true :=
      fun row other untouched => other (isUntouched_iff.mp untouched).1
    rw [List.foldl_cons, ih distinct' fun w' later => keeps w' (List.mem_cons_of_mem _ later)]
    · rw [write, List.map_map]
      refine List.map_congr_left fun row member => ?_
      rw [Function.comp_apply]
      by_cases same : row.id = w.id
      · rw [if_pos ((reached row member).mpr same),
          rewrite_of_mem distinct List.mem_cons_self same]
        refine rewrite_of_not_mem fun w' later => ?_
        rw [keeps w List.mem_cons_self, same]
        exact (others w' later).symm
      · rw [if_neg (unreached row same), rewrite, rewrite,
          List.find?_cons_of_neg (by simpa only [decide_eq_true_eq] using Ne.symm same)]
    · intro w' later row' member same
      obtain ⟨row, inRows, rfl⟩ := List.mem_map.mp member
      by_cases here : isUntouched w.id w.attempts row = true
      · rw [if_pos here, keeps w List.mem_cons_self, (isUntouched_iff.mp here).1] at same
        exact absurd same (others w' later)
      · rw [if_neg here] at same ⊢
        exact current w' (List.mem_cons_of_mem _ later) row inRows same

theorem amend_eq_write {w : GuardedWrite} {count : Nat}
    (amended : rows.amend (isUntouched w.id w.attempts) w.change = .ok (rows', count)) :
    rows' = rows.write w :=
  (amend_eq_ok_iff.mp amended).2.1

theorem release_eq_writes {entries : List OutboxEntry} {count : Nat}
    (released : rows.release entries clock = .ok (count, rows')) :
    rows' = (entries.map (GuardedWrite.giveBack clock)).foldl write rows := by
  induction entries generalizing rows count with
  | nil =>
    cases released
    rfl
  | cons entry rest ih =>
    obtain ⟨between, n, more, first, others, _⟩ := release_cons_eq_ok_iff.mp released
    have written : between = rows.write (.giveBack clock entry) := amend_eq_write first
    rw [ih others, List.map_cons, List.foldl_cons, written]

theorem applyTransitions_eq_writes {transitions : List EntryTransition} {ids : List Uuid}
    (settled : rows.applyTransitions transitions clock = .ok (ids, rows')) :
    rows' = (transitions.map (GuardedWrite.settling clock)).foldl write rows := by
  induction transitions generalizing rows ids with
  | nil =>
    cases settled
    rfl
  | cons t rest ih =>
    obtain ⟨between, n, more, _, first, others, _⟩ := applyTransitions_cons_eq_ok_iff.mp settled
    have written : between = rows.write (.settling clock t) := amend_eq_write first
    rw [ih others, List.map_cons, List.foldl_cons, written]

/-- All transitions land whose entries are there as expected. -/
theorem applyTransitions_ids {transitions : List EntryTransition} {ids : List Uuid}
    (settled : rows.applyTransitions transitions clock = .ok (ids, rows'))
    (distinct : transitions.Pairwise fun a b => a.id ≠ b.id)
    (current : ∀ t ∈ transitions, ∃ row ∈ rows, isUntouched t.id t.previousAttempts row = true) :
    ids = transitions.map (·.id) := by
  induction transitions generalizing rows ids with
  | nil =>
    cases settled
    rfl
  | cons t rest ih =>
    obtain ⟨between, n, more, _, first, others, rfl⟩ := applyTransitions_cons_eq_ok_iff.mp settled
    obtain ⟨different, distinct'⟩ := List.pairwise_cons.mp distinct
    obtain ⟨_, rfl, rfl⟩ := amend_eq_ok_iff.mp first
    obtain ⟨row, member, untouched⟩ := current t List.mem_cons_self
    have some : 0 < (rows.filter (isUntouched t.id t.previousAttempts)).length :=
      List.length_pos_of_mem (List.mem_filter.mpr ⟨member, untouched⟩)
    rw [if_pos some, List.map_cons, ih others distinct']
    intro t' later
    obtain ⟨row', member', untouched'⟩ := current t' (List.mem_cons_of_mem _ later)
    refine ⟨row', List.mem_map.mpr ⟨row', member', if_neg fun here => ?_⟩, untouched'⟩
    exact different t' later
      ((isUntouched_iff.mp here).1.symm.trans (isUntouched_iff.mp untouched').1)

end OutboxRows

end OutboxRelay
