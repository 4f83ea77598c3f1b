import OutboxRelay.Proofs.ClaimExclusion
import OutboxRelay.Proofs.RelayRun

namespace OutboxRelay

theorem OutboxEntry.Attempted.counted {entry : OutboxEntry} {t : EntryTransition}
    (attempted : entry.Attempted t) : t.attempts = t.previousAttempts + 1 := by
  obtain ⟨_, _, _, _, _, _, _, _, _, _, made⟩ := attempted
  rcases RetryPolicy.transition_cases made with ⟨_, rfl⟩ | ⟨_, _, _, rfl⟩ |
    ⟨_, _, _, _, _, _, _, rfl⟩ <;> rfl

namespace OutboxRows

/-- How many attempts at an entry of the table a call settles. -/
def settledBy (rows : OutboxRows) (table : OutboxTable) (id : Uuid) (x : Transaction) : Nat :=
  match x.call with
  | .applyTransitions transitions =>
    if x.db.outbox.table = table then
      match rows.applyTransitions transitions x.now with
      | .ok (ids, _) => ids.count id
      | .error _ => 0
    else 0
  | _ => 0

/-- Whether a call makes an entry of the table pending again after it had failed. -/
def renewedBy (rows : OutboxRows) (table : OutboxTable) (id : Uuid) (x : Transaction) : Bool :=
  match x.call with
  | .requeueFailed ids due =>
    x.db.outbox.table = table && (rows.requeueFailed ids due x.now).isOk &&
      rows.any fun row => row.id = id && (ids.contains row.id && row.status = .failed)
  | _ => false

variable {table : OutboxTable} {rows rows' : OutboxRows} {id : Uuid} {clock : Instant}

/-- A write counts the rows that it finds. -/
theorem amend_pos_iff {selects : OutboxEntry → Bool} {change : OutboxEntry → OutboxEntry}
    {count : Nat} (amended : rows.amend selects change = .ok (rows', count)) :
    0 < count ↔ ∃ row ∈ rows, selects row = true := by
  obtain ⟨_, _, rfl⟩ := amend_eq_ok_iff.mp amended
  rw [List.length_filter_pos_iff]

/-- A row stays as it is unless its identifier is among those of the transitions that land. -/
theorem mem_of_unsettled {transitions : List EntryTransition} {ids : List Uuid}
    {row : OutboxEntry} (settled : rows.applyTransitions transitions clock = .ok (ids, rows'))
    (member : row ∈ rows) (unsettled : row.id ∉ ids) : row ∈ rows' := by
  induction transitions generalizing rows ids with
  | nil =>
    cases settled
    exact member
  | cons t rest ih =>
    obtain ⟨between, n, more, _, first, others, rfl⟩ := applyTransitions_cons_eq_ok_iff.mp settled
    have missed : ¬ isUntouched t.id t.previousAttempts row = true := by
      intro untouched
      rw [if_pos ((amend_pos_iff first).mpr ⟨row, member, untouched⟩)] at unsettled
      exact unsettled (List.mem_cons.mpr (.inl (isUntouched_iff.mp untouched).1))
    refine ih others (mem_of_amend first member missed) fun later => unsettled ?_
    split
    · exact List.mem_cons_of_mem _ later
    · exact later

/-- A guarded write of an attempt moves the count of its entry on, if it lands, and no other. -/
theorem Consistent.attempts_amend {t : EntryTransition} {n : Int} {count : Nat}
    (consistent : rows.Consistent) (counted : t.attempts = t.previousAttempts + 1)
    (amended : rows.amend (isUntouched t.id t.previousAttempts) (settle t clock) =
      .ok (rows', count))
    (before : ∀ row ∈ rows, row.id = id → row.attempts = n) :
    ∀ row ∈ rows', row.id = id → row.attempts = if 0 < count ∧ t.id = id then n + 1 else n := by
  have found := amend_pos_iff amended
  obtain ⟨_, rfl, _⟩ := amend_eq_ok_iff.mp amended
  intro changed inRows' same
  obtain ⟨row, member, rfl⟩ := List.mem_map.mp inRows'
  by_cases untouched : isUntouched t.id t.previousAttempts row = true
  · obtain ⟨isRow, _, attempts⟩ := isUntouched_iff.mp untouched
    rw [if_pos untouched] at same ⊢
    have isId : row.id = id := same
    rw [if_pos ⟨found.mpr ⟨row, member, untouched⟩, isRow.symm.trans isId⟩]
    have atRow := before row member isId
    change t.attempts = n + 1
    omega
  · rw [if_neg untouched] at same ⊢
    rw [before row member same, if_neg]
    rintro ⟨landed, isId⟩
    obtain ⟨other, inRows, reached⟩ := found.mp landed
    have isOther := (isUntouched_iff.mp reached).1.trans (isId.trans same.symm)
    exact untouched (consistent.eq_of_id inRows member isOther ▸ reached)

/-- Every settled attempt counts. -/
theorem Consistent.attempts_applyTransitions {transitions : List EntryTransition}
    {ids : List Uuid} {n : Int} (consistent : rows.Consistent)
    (counted : ∀ t ∈ transitions, t.attempts = t.previousAttempts + 1)
    (settled : rows.applyTransitions transitions clock = .ok (ids, rows'))
    (before : ∀ row ∈ rows, row.id = id → row.attempts = n) :
    ∀ row ∈ rows', row.id = id → row.attempts = n + ids.count id := by
  induction transitions generalizing rows ids n with
  | nil =>
    cases settled
    simpa only [List.count_nil, Int.natCast_zero, Int.add_zero] using before
  | cons t rest ih =>
    obtain ⟨between, k, more, _, first, others, rfl⟩ := applyTransitions_cons_eq_ok_iff.mp settled
    have after := consistent.attempts_amend (counted t List.mem_cons_self) first before
    have last := ih (consistent.amend first (fun _ => rfl) fun _ => stored_map_stored _)
      (fun other later => counted other (List.mem_cons_of_mem _ later)) others after
    intro row member same
    rw [last row member same]
    by_cases landed : 0 < k
    · by_cases isId : t.id = id
      · rw [if_pos ⟨landed, isId⟩, if_pos landed, isId, List.count_cons_self]
        omega
      · rw [if_neg (mt And.right isId), if_pos landed, List.count_cons_of_ne isId]
    · rw [if_neg (mt And.left landed), if_neg landed]

/-- A failed entry starts again from no attempts, and every other keeps its count. -/
theorem Consistent.attempts_requeueFailed {ids : List Uuid} {due : Instant} {count : Nat} {n : Int}
    (consistent : rows.Consistent)
    (requeued : rows.requeueFailed ids due clock = .ok (count, rows'))
    (before : ∀ row ∈ rows, row.id = id → row.attempts = n) :
    ∀ row ∈ rows', row.id = id → row.attempts =
      if rows.any (fun row => row.id = id && (ids.contains row.id && row.status = .failed)) then 0
      else n := by
  obtain ⟨_, rfl, _⟩ := amend_eq_ok_iff.mp (requeueFailed_eq_ok_iff.mp requeued).2
  intro changed inRows' same
  obtain ⟨row, member, rfl⟩ := List.mem_map.mp inRows'
  by_cases picked : (ids.contains row.id && row.status = .failed) = true
  · rw [if_pos picked] at same ⊢
    have isId : row.id = id := same
    rw [if_pos (List.any_eq_true.mpr ⟨row, member, by rw [decide_eq_true isId, picked]; rfl⟩)]
    rfl
  · rw [if_neg picked] at same ⊢
    rw [before row member same, if_neg]
    intro found
    obtain ⟨other, inRows, reached⟩ := List.any_eq_true.mp found
    obtain ⟨isId, picked'⟩ := Bool.and_eq_true_iff.mp reached
    have isRow := consistent.eq_of_id inRows member ((of_decide_eq_true isId).trans same.symm)
    exact picked (isRow ▸ picked')

/-- New rows have new identifiers. -/
theorem Emitted.mem_of_issued {serial serial' number : Nat} {row : OutboxEntry}
    (emitted : Emitted rows serial rows' serial') (room : serial' ≤ 2 ^ 128)
    (member : row ∈ rows') (old : number < serial) (same : row.id = Uuid.ofSerial number) :
    row ∈ rows := by
  induction emitted with
  | quiet _ => exact member
  | @put between next last serial' settings event now before inserted _ bound ih =>
    obtain ⟨_, _, _, rfl⟩ := insert_eq_ok_iff.mp inserted
    rcases List.mem_append.mp member with earlier | new
    · exact ih (by omega) earlier
    · rw [List.mem_singleton.mp new] at same
      have rising := before.serial_le
      exact absurd same.symm (Uuid.ofSerial_ne (by omega) (by omega))

/-- A write to something else leaves the counts alone. -/
theorem attempts_map {f : OutboxEntry → OutboxEntry} {n : Int}
    (ids : ∀ row, (f row).id = row.id) (attempts : ∀ row, (f row).attempts = row.attempts)
    (before : ∀ row ∈ rows, row.id = id → row.attempts = n) :
    ∀ row ∈ rows.map f, row.id = id → row.attempts = n := by
  intro changed inMap same
  obtain ⟨row, member, rfl⟩ := List.mem_map.mp inMap
  rw [attempts row]
  exact before row member ((ids row).symm.trans same)

/-- Calls that neither settle attempts nor make entries pending again leave all counts alone. -/
theorem Step.attempts_kept {x : Transaction} {entries : List OutboxEntry}
    {serial serial' number : Nat} {n : Int}
    (step : Step table x rows serial entries rows' serial')
    (settlesNone : ¬∃ transitions, x.call = .applyTransitions transitions)
    (renewsNone : ¬∃ ids due, x.call = .requeueFailed ids due) (issued : number < serial)
    (isNumber : id = Uuid.ofSerial number) (room : serial' ≤ 2 ^ 128)
    (before : ∀ row ∈ rows, row.id = id → row.attempts = n) :
    ∀ row ∈ rows', row.id = id → row.attempts = n := by
  cases step with
  | emitted emitted =>
    intro row member same
    exact before row (emitted.mem_of_issued room member issued (same.trans isNumber)) same
  | fetched _ _ fetched =>
    obtain ⟨claimEnd, _, _, _, rfl⟩ := fetchDue_eq_ok_iff.mp fetched
    exact attempts_map (fun row => by split <;> rfl) (fun row => by split <;> rfl) before
  | released _ _ released =>
    refine release_preserves (P := fun rows => ∀ row ∈ rows, row.id = id → row.attempts = n)
      released (fun entry _ earlier later count held amended => ?_) before
    obtain ⟨_, rfl, _⟩ := amend_eq_ok_iff.mp amended
    exact attempts_map (fun row => by split <;> rfl) (fun row => by split <;> rfl) held
  | settled _ isApply _ => exact absurd ⟨_, isApply⟩ settlesNone
  | cleaned _ _ cleaned =>
    rw [cleanup_eq_ok cleaned]
    exact fun row member => before row (List.mem_of_mem_filter member)
  | requeued _ isRequeue _ => exact absurd ⟨_, _, isRequeue⟩ renewsNone

/-- No call makes an entry pending again that is. -/
theorem Consistent.not_renewedBy {x : Transaction} {row : OutboxEntry}
    (consistent : rows.Consistent) (member : row ∈ rows) (same : row.id = id)
    (pending : row.status = .pending) : rows.renewedBy table id x = false := by
  unfold renewedBy
  split
  · rename_i ids due _
    have none : (rows.any fun other =>
        other.id = id && (ids.contains other.id && other.status = .failed)) = false := by
      simp only [List.any_eq_false, Bool.and_eq_true, decide_eq_true_eq, not_and]
      intro other inRows isId _ failed
      rw [consistent.eq_of_id inRows member (isId.trans same.symm), pending] at failed
      cases failed
    rw [none, Bool.and_false]
  · rfl

/-- A write to something else leaves a pending entry pending. -/
theorem pending_map {f : OutboxEntry → OutboxEntry} (ids : ∀ row, (f row).id = row.id)
    (status : ∀ row, (f row).status = row.status)
    (before : ∃ row ∈ rows, row.id = id ∧ row.status = .pending) :
    ∃ row ∈ rows.map f, row.id = id ∧ row.status = .pending := by
  obtain ⟨row, member, same, pending⟩ := before
  exact ⟨f row, List.mem_map_of_mem member, (ids row).trans same, (status row).trans pending⟩

/-- A pending entry stays pending until an attempt at it is settled. -/
theorem Step.pending_kept {x : Transaction} {entries : List OutboxEntry} {serial serial' : Nat}
    (step : Step table x rows serial entries rows' serial') (consistent : rows.Consistent)
    (unsettled : rows.settledBy table id x = 0)
    (before : ∃ row ∈ rows, row.id = id ∧ row.status = .pending) :
    ∃ row ∈ rows', row.id = id ∧ row.status = .pending := by
  have ⟨row, member, same, pending⟩ := before
  cases step with
  | emitted emitted => exact ⟨row, emitted.subset member, same, pending⟩
  | fetched _ _ fetched =>
    obtain ⟨claimEnd, _, _, _, rfl⟩ := fetchDue_eq_ok_iff.mp fetched
    exact pending_map (fun row => by split <;> rfl) (fun row => by split <;> rfl) before
  | released _ _ released =>
    refine release_preserves (P := fun rows => ∃ row ∈ rows, row.id = id ∧ row.status = .pending)
      released (fun entry _ earlier later count held amended => ?_) before
    obtain ⟨_, rfl, _⟩ := amend_eq_ok_iff.mp amended
    exact pending_map (fun row => by split <;> rfl) (fun row => by split <;> rfl) held
  | settled target isApply settled =>
    simp only [settledBy, isApply, if_pos target, settled] at unsettled
    refine ⟨row, mem_of_unsettled settled member ?_, same, pending⟩
    rw [same]
    exact List.count_eq_zero.mp unsettled
  | cleaned _ _ cleaned => exact ⟨row, mem_of_cleanup consistent cleaned member pending, same, pending⟩
  | @requeued ids _ _ _ _ _ requeued =>
    have missed : ¬(ids.contains row.id && row.status = .failed) = true := by
      simp only [pending, reduceCtorEq, decide_false, Bool.and_false, Bool.false_eq_true,
        not_false_eq_true]
    exact ⟨row, mem_of_amend (requeueFailed_eq_ok_iff.mp requeued).2 member missed, same, pending⟩

end OutboxRows

namespace Store
variable {table : OutboxTable} {id : Uuid} {s : Store} {x : Transaction}

/-- A call that writes to an outbox table: either the rows stay as they are, and if the write was
meant for them it is refused, or it is done. -/
theorem perform_write_cases {α : Type} {operation : OutboxRows → Except Error (α × OutboxRows)}
    {g : α → Reply} (s : Store)
    (performed : s.perform x = s.atomic (g <$> Work.onOutbox x.db.outbox.table operation))
    (table : OutboxTable) :
    ((s.perform x).2.rows table = s.rows table ∧ (x.db.outbox.table = table →
        ∃ e, operation (s.rows table) = .error e ∧ (s.perform x).1 = .error e)) ∨
      ∃ a rows, x.db.outbox.table = table ∧ operation (s.rows table) = .ok (a, rows) ∧
        (s.perform x).2.rows table = rows ∧ (s.perform x).1 = .ok (g a) := by
  rw [performed]
  obtain ⟨store, isStore, kept, _, failed⟩ | ⟨a, rows, target, done, written⟩ :=
    s.atomic_onOutbox_cases x.db.outbox.table table operation g
  · refine .inl ⟨by rw [isStore, kept], fun target => ?_⟩
    obtain ⟨e, error⟩ := failed target
    subst target
    exact ⟨e, atomic_onOutbox_error error, error⟩
  · refine .inr ⟨a, rows, target, done, ?_, by rw [written]⟩
    rw [written]
    exact Tables.outbox_setOutbox _ _ _

/-- What a call that settles attempts does. -/
theorem perform_applyTransitions_cases {transitions : List EntryTransition} (s : Store)
    (isApply : x.call = .applyTransitions transitions) (table : OutboxTable) :
    ((s.perform x).2.rows table = s.rows table ∧
        (∀ id, (s.rows table).settledBy table id x = 0) ∧ (x.db.outbox.table = table →
        ∃ e, (s.rows table).applyTransitions transitions x.now = .error e ∧
          (s.perform x).1 = .error e)) ∨
      ∃ ids, x.db.outbox.table = table ∧
        (s.rows table).applyTransitions transitions x.now =
          .ok (ids, (s.perform x).2.rows table) ∧
        (s.perform x).1 = .ok (.ids ids) ∧
        ∀ id, (s.rows table).settledBy table id x = ids.count id := by
  have performed : s.perform x = s.atomic (Reply.ids <$> Work.onOutbox x.db.outbox.table
      fun rows => rows.applyTransitions transitions x.now) := by
    obtain ⟨db, now, call⟩ := x
    obtain rfl : call = _ := isApply
    exact s.perform_applyTransitions db now transitions
  rcases s.perform_write_cases performed table with ⟨kept, failed⟩ | ⟨ids, rows, target, done, left, reply⟩
  · refine .inl ⟨kept, fun id => ?_, failed⟩
    simp only [OutboxRows.settledBy, isApply]
    split
    · rename_i target
      obtain ⟨e, error, _⟩ := failed target
      rw [error]
    · rfl
  · refine .inr ⟨ids, target, by rw [left]; exact done, reply, fun id => ?_⟩
    simp only [OutboxRows.settledBy, isApply, if_pos target, done]

/-- What a call that makes failed entries pending again does. -/
theorem perform_requeueFailed_cases {ids : List Uuid} {due : Instant} (s : Store)
    (isRequeue : x.call = .requeueFailed ids due) (table : OutboxTable) :
    ((s.perform x).2.rows table = s.rows table ∧
        ∀ id, (s.rows table).renewedBy table id x = false) ∨
      ∃ count, x.db.outbox.table = table ∧
        (s.rows table).requeueFailed ids due x.now = .ok (count, (s.perform x).2.rows table) ∧
        ∀ id, (s.rows table).renewedBy table id x = (s.rows table).any fun row =>
          row.id = id && (ids.contains row.id && row.status = .failed) := by
  have performed : s.perform x = s.atomic (Reply.count <$> Work.onOutbox x.db.outbox.table
      fun rows => rows.requeueFailed ids due x.now) := by
    obtain ⟨db, now, call⟩ := x
    obtain rfl : call = _ := isRequeue
    exact s.perform_requeueFailed db now ids due
  rcases s.perform_write_cases performed table with ⟨kept, failed⟩ | ⟨count, rows, target, done, left, _⟩
  · refine .inl ⟨kept, fun id => ?_⟩
    simp only [OutboxRows.renewedBy, isRequeue]
    by_cases target : x.db.outbox.table = table
    · obtain ⟨e, error, _⟩ := failed target
      rw [error, Except.isOk, Except.toBool, Bool.and_false, Bool.false_and]
    · rw [decide_eq_false target, Bool.false_and, Bool.false_and]
  · refine .inr ⟨count, target, by rw [left]; exact done, fun id => ?_⟩
    simp only [OutboxRows.renewedBy, isRequeue, decide_eq_true target, done, Except.isOk,
      Except.toBool, Bool.true_and]

/-- One call moves the count of an entry on by the attempts at it that it settles, and sets it back
if it makes the entry pending again. -/
theorem perform_attempts {copies : List OutboxEntry} {number : Nat} {n : Int}
    (consistent : (s.rows table).Consistent) (permitted : x.Permitted table copies)
    (issued : number < s.serial) (isNumber : id = Uuid.ofSerial number)
    (room : (s.perform x).2.serial ≤ 2 ^ 128)
    (before : ∀ row ∈ s.rows table, row.id = id → row.attempts = n) :
    ∀ row ∈ (s.perform x).2.rows table, row.id = id →
      row.attempts = if (s.rows table).renewedBy table id x then 0
        else n + (s.rows table).settledBy table id x := by
  by_cases isApply : ∃ transitions, x.call = .applyTransitions transitions
  · obtain ⟨transitions, isApply⟩ := isApply
    have unrenewed : (s.rows table).renewedBy table id x = false := by
      simp only [OutboxRows.renewedBy, isApply]
    rw [unrenewed]
    rcases s.perform_applyTransitions_cases isApply table with ⟨kept, none, _⟩ |
      ⟨ids, target, settled, _, count⟩
    · rw [kept, none]
      simpa only [Bool.false_eq_true, if_false, Int.natCast_zero, Int.add_zero] using before
    · rw [count]
      refine consistent.attempts_applyTransitions (fun t member => ?_) settled before
      obtain ⟨_, _, attempted⟩ := permitted.settled transitions target isApply t member
      exact attempted.counted
  · have unsettled : (s.rows table).settledBy table id x = 0 := by
      unfold OutboxRows.settledBy
      split
      · rename_i transitions found
        exact absurd ⟨transitions, found⟩ isApply
      · rfl
    rw [unsettled, Int.natCast_zero, Int.add_zero]
    by_cases isRequeue : ∃ ids due, x.call = .requeueFailed ids due
    · obtain ⟨ids, due, isRequeue⟩ := isRequeue
      rcases s.perform_requeueFailed_cases isRequeue table with ⟨kept, none⟩ |
        ⟨count, _, requeued, found⟩
      · rw [kept, none]
        exact before
      · rw [found]
        exact consistent.attempts_requeueFailed requeued before
    · have unrenewed : (s.rows table).renewedBy table id x = false := by
        unfold OutboxRows.renewedBy
        split
        · rename_i ids due found
          exact absurd ⟨ids, due, found⟩ isRequeue
        · rfl
      rw [unrenewed]
      exact (s.perform_step x table).attempts_kept isApply isRequeue issued isNumber room before

/-- How many attempts at an entry a run of calls settles. -/
def settlements (s : Store) (table : OutboxTable) (id : Uuid) : List Transaction → Nat
  | [] => 0
  | x :: rest => (s.rows table).settledBy table id x + (s.perform x).2.settlements table id rest

/-- Whether an entry becomes pending again in a run of calls after it had failed. -/
def renewed (s : Store) (table : OutboxTable) (id : Uuid) : List Transaction → Bool
  | [] => false
  | x :: rest => (s.rows table).renewedBy table id x || (s.perform x).2.renewed table id rest

/-- What a run of calls makes of a count of attempts at an entry: each one that is settled counts,
and after a failure the count starts again. -/
def attemptsAfter (s : Store) (table : OutboxTable) (id : Uuid) (attempts : Int) :
    List Transaction → Int
  | [] => attempts
  | x :: rest => (s.perform x).2.attemptsAfter table id
      (if (s.rows table).renewedBy table id x then 0
        else attempts + (s.rows table).settledBy table id x) rest

/-- As long as an entry does not start again, its count only grows. -/
theorem attemptsAfter_of_not_renewed {run : List Transaction} {attempts : Int}
    (unrenewed : s.renewed table id run = false) :
    s.attemptsAfter table id attempts run = attempts + s.settlements table id run := by
  induction run generalizing s attempts with
  | nil => rw [attemptsAfter, settlements, Int.natCast_zero, Int.add_zero]
  | cons x rest ih =>
    obtain ⟨here, later⟩ := Bool.or_eq_false_iff.mp unrenewed
    rw [attemptsAfter, settlements, here, ih later, if_neg Bool.false_ne_true]
    omega

end Store

namespace Relay

/-- Permitted calls, one after the other, from one state to another. -/
inductive Leads (table : OutboxTable) : Relay → List Transaction → Relay → Prop
  | done {r : Relay} : Leads table r [] r
  | call {r r' : Relay} {x : Transaction} {rest : List Transaction} :
      x.Permitted table r.copies → Leads table (r.perform table x) rest r' →
      Leads table r (x :: rest) r'

variable {table : OutboxTable} {r r' : Relay} {run : List Transaction} {id : Uuid}

theorem Leads.append {r'' : Relay} {run' : List Transaction} (first : Leads table r run r')
    (second : Leads table r' run' r'') : Leads table r (run ++ run') r'' := by
  induction first with
  | done => exact second
  | call permitted _ ih => exact .call permitted (ih second)

theorem Leads.reachable (leads : Leads table r run r') (reach : Reachable table r) :
    Reachable table r' := by
  induction leads with
  | done => exact reach
  | call permitted _ ih => exact ih (.perform reach permitted)

theorem Leads.store_eq (leads : Leads table r run r') : r'.store = r.store.after run := by
  induction leads with
  | done => rfl
  | call _ _ ih => exact ih

/-- Sweeps keep their copies. -/
theorem Leads.copies_subset (leads : Leads table r run r') : r.copies ⊆ r'.copies := by
  induction leads with
  | done => exact List.Subset.refl _
  | call _ _ ih => exact List.Subset.trans (List.subset_append_left _ _) ih

theorem Leads.serial_le (leads : Leads table r run r') : r.store.serial ≤ r'.store.serial := by
  induction leads with
  | done => exact Nat.le_refl _
  | @call r _ x _ _ _ ih => exact Nat.le_trans (r.store.perform_step x table).serial_le ih

/-- The attempts at an entry are those that were settled since it last became pending. -/
theorem Leads.attempts {number : Nat} {n : Int} (leads : Leads table r run r')
    (reach : Reachable table r) (issued : number < r.store.serial)
    (isNumber : id = Uuid.ofSerial number) (room : r'.store.serial ≤ 2 ^ 128)
    (before : ∀ row ∈ r.store.rows table, row.id = id → row.attempts = n) :
    ∀ row ∈ r'.store.rows table, row.id = id →
      row.attempts = r.store.attemptsAfter table id n run := by
  induction leads generalizing n with
  | done => exact before
  | @call r r' x rest permitted rest_leads ih =>
    have room' := Nat.le_trans rest_leads.serial_le room
    have rising := (r.store.perform_step x table).serial_le
    exact ih (.perform reach permitted) (Nat.lt_of_lt_of_le issued rising) room
      (Store.perform_attempts reach.consistent permitted issued isNumber room' before)

/-- An entry that is pending stays so, and is not made pending again, until an attempt at it is
settled. -/
theorem Leads.pending (leads : Leads table r run r') (reach : Reachable table r)
    (unsettled : r.store.settlements table id run = 0)
    (before : ∃ row ∈ r.store.rows table, row.id = id ∧ row.status = .pending) :
    (∃ row ∈ r'.store.rows table, row.id = id ∧ row.status = .pending) ∧
      r.store.renewed table id run = false := by
  induction leads with
  | done => exact ⟨before, rfl⟩
  | @call r r' x rest permitted _ ih =>
    obtain ⟨here, later⟩ := Nat.add_eq_zero_iff.mp unsettled
    have kept := (r.store.perform_step x table).pending_kept reach.consistent here before
    obtain ⟨last, unrenewed⟩ := ih (.perform reach permitted) later kept
    obtain ⟨row, member, same, pending⟩ := before
    refine ⟨last, Bool.or_eq_false_iff.mpr ⟨?_, unrenewed⟩⟩
    exact reach.consistent.not_renewedBy member same pending

end Relay

end OutboxRelay
