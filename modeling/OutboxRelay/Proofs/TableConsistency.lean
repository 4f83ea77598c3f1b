import Mathlib.Data.List.Pairwise
import OutboxRelay.Proofs.RowWrites
import OutboxRelay.Proofs.StoreRun
import OutboxRelay.Proofs.StoredTime

namespace OutboxRelay

namespace OutboxRows

/-- What the table itself sees to, whatever is written to it: its unique keys, its checks, and
times in whole microseconds. -/
structure Consistent (rows : OutboxRows) : Prop where
  ids : rows.Pairwise fun a b => a.id ≠ b.id
  keys : rows.Pairwise fun a b =>
    ¬(a.eventType = b.eventType ∧ a.idempotencyKey = b.idempotencyKey)
  accepted : ∀ row ∈ rows, row.fault? = none
  stored : ∀ row ∈ rows, row.nextAttemptAt.map Instant.stored = row.nextAttemptAt

/-- Every payload can be read. -/
def Readable (rows : OutboxRows) : Prop := ∀ row ∈ rows, row.isReadable = true

theorem Consistent.empty : Consistent [] :=
  ⟨.nil, .nil, List.forall_mem_nil _, List.forall_mem_nil _⟩

theorem Consistent.eq_of_id {rows : OutboxRows} (consistent : rows.Consistent)
    {a b : OutboxEntry} (inA : a ∈ rows) (inB : b ∈ rows) (same : a.id = b.id) : a = b := by
  have symmetric : Std.Symm fun a b : OutboxEntry => a.id ≠ b.id := ⟨fun _ _ ne => ne.symm⟩
  exact Classical.byContradiction fun different =>
    consistent.ids.forall inA inB different same

theorem Consistent.lawful {rows : OutboxRows} (consistent : rows.Consistent) {row : OutboxEntry}
    (member : row ∈ rows) :
    0 ≤ row.attempts ∧ 0 < row.maxAttempts ∧
      (row.status = .pending ↔ row.nextAttemptAt.isSome = true) :=
  OutboxEntry.isLawful_iff.mp
    (OutboxEntry.fault?_eq_none_iff.mp (consistent.accepted row member)).2.2.2

theorem Consistent.sublist {rows rows' : OutboxRows} (consistent : rows.Consistent)
    (sub : rows'.Sublist rows) : rows'.Consistent where
  ids := consistent.ids.sublist sub
  keys := consistent.keys.sublist sub
  accepted row member := consistent.accepted row (sub.subset member)
  stored row member := consistent.stored row (sub.subset member)

theorem Consistent.insert {rows rows' : OutboxRows} {entry : OutboxEntry}
    (consistent : rows.Consistent) (inserted : rows.insert entry = .ok rows')
    (stored : entry.nextAttemptAt.map Instant.stored = entry.nextAttemptAt) :
    rows'.Consistent := by
  obtain ⟨accepted, newKey, newId, rfl⟩ := insert_eq_ok_iff.mp inserted
  refine ⟨?_, ?_, ?_, ?_⟩
  · exact List.pairwise_append.mpr ⟨consistent.ids, List.pairwise_singleton _ _,
      fun row member _ isEntry => List.mem_singleton.mp isEntry ▸ newId row member⟩
  · exact List.pairwise_append.mpr ⟨consistent.keys, List.pairwise_singleton _ _,
      fun row member _ isEntry => List.mem_singleton.mp isEntry ▸ newKey row member⟩
  · exact List.forall_mem_append.mpr ⟨consistent.accepted, List.forall_mem_singleton.mpr accepted⟩
  · exact List.forall_mem_append.mpr ⟨consistent.stored, List.forall_mem_singleton.mpr stored⟩

/-- A write that keeps the fixed part of every row keeps all unique keys. -/
theorem Consistent.map {rows : OutboxRows} {f : OutboxEntry → OutboxEntry}
    (consistent : rows.Consistent) (fixed : ∀ row, (f row).fixedPart = row.fixedPart)
    (accepted : ∀ row ∈ rows, (f row).fault? = none)
    (stored : ∀ row ∈ rows, (f row).nextAttemptAt.map Instant.stored = (f row).nextAttemptAt) :
    Consistent (rows.map f) where
  ids := by
    rw [List.pairwise_map]
    refine consistent.ids.imp fun {a b} different same => different ?_
    rw [← OutboxEntry.id_of_fixedPart (fixed a), ← OutboxEntry.id_of_fixedPart (fixed b), same]
  keys := by
    rw [List.pairwise_map]
    refine consistent.keys.imp fun {a b} different same => different ?_
    obtain ⟨_, _, _, eventA, _, keyA, _⟩ := OutboxEntry.fixedPart_eq_iff.mp (fixed a)
    obtain ⟨_, _, _, eventB, _, keyB, _⟩ := OutboxEntry.fixedPart_eq_iff.mp (fixed b)
    exact ⟨eventA.symm.trans (same.1.trans eventB), keyA.symm.trans (same.2.trans keyB)⟩
  accepted := List.forall_mem_map.mpr accepted
  stored := List.forall_mem_map.mpr stored

theorem Consistent.amend {rows rows' : OutboxRows} {selects : OutboxEntry → Bool}
    {change : OutboxEntry → OutboxEntry} {count : Nat} (consistent : rows.Consistent)
    (amended : rows.amend selects change = .ok (rows', count))
    (fixed : ∀ row, (change row).fixedPart = row.fixedPart)
    (stored : ∀ row, (change row).nextAttemptAt.map Instant.stored = (change row).nextAttemptAt) :
    rows'.Consistent := by
  obtain ⟨accepted, rfl, _⟩ := amend_eq_ok_iff.mp amended
  refine consistent.map (fun row => ?_) (fun row member => ?_) (fun row member => ?_)
  · split
    · exact fixed row
    · rfl
  · split
    · rename_i selected
      exact accepted row member selected
    · exact consistent.accepted row member
  · split
    · exact stored row
    · exact consistent.stored row member

theorem stored_map_stored (time : Option Instant) :
    (time.map Instant.stored).map Instant.stored = time.map Instant.stored := by
  cases time with
  | none => rfl
  | some t => exact congrArg some t.stored_stored

/-- A claim moves the schedule of a row that has one. -/
theorem fault?_claim {row : OutboxEntry} (claimEnd clock : Instant) (accepted : row.fault? = none)
    (pending : row.status = .pending) : (claim claimEnd clock row).fault? = none := by
  rw [OutboxEntry.fault?_eq_none_iff, OutboxEntry.isLawful_iff] at *
  obtain ⟨texts, attempts, maxAttempts, nonneg, positive, _⟩ := accepted
  exact ⟨texts, attempts, maxAttempts, nonneg, positive, fun _ => rfl, fun _ => pending⟩

/-- The rows that a fetch claims are those that it returns. -/
theorem Consistent.mem_fetched {rows rows' : OutboxRows} {now clock : Instant} {limit : Int}
    {lease : Period} {entries : List OutboxEntry} (consistent : rows.Consistent)
    (fetched : rows.fetchDue now limit lease clock = .ok (entries, rows')) {row : OutboxEntry}
    (member : row ∈ rows) : entries.any (·.id = row.id) = true ↔ row ∈ entries := by
  obtain ⟨_, _, _, rfl, _⟩ := fetchDue_eq_ok_iff.mp fetched
  simp only [List.any_eq_true, decide_eq_true_eq]
  constructor
  · rintro ⟨entry, taken, same⟩
    have inRows := (mem_due.mp (List.mem_of_mem_take taken)).1
    exact consistent.eq_of_id inRows member same ▸ taken
  · exact fun taken => ⟨row, taken, rfl⟩

/-- What a fetch returns was due. -/
theorem due_of_fetched {rows rows' : OutboxRows} {now clock : Instant} {limit : Int}
    {lease : Period} {entries : List OutboxEntry}
    (fetched : rows.fetchDue now limit lease clock = .ok (entries, rows')) {entry : OutboxEntry}
    (member : entry ∈ entries) : entry ∈ rows ∧ entry.isDue now.stored = true := by
  obtain ⟨_, _, _, rfl, _⟩ := fetchDue_eq_ok_iff.mp fetched
  exact mem_due.mp (List.mem_of_mem_take member)

end OutboxRows

theorem OutboxEntry.pending_of_isDue {e : OutboxEntry} {now : Instant} (due : e.isDue now = true) :
    e.status = .pending := by
  simp only [isDue, Bool.and_eq_true, decide_eq_true_eq] at due
  exact due.1

namespace OutboxRows

/-- No row is fetched twice at once. -/
theorem Consistent.fetched_distinct {rows rows' : OutboxRows} {now clock : Instant} {limit : Int}
    {lease : Period} {entries : List OutboxEntry} (consistent : rows.Consistent)
    (fetched : rows.fetchDue now limit lease clock = .ok (entries, rows')) :
    entries.Pairwise fun a b => a.id ≠ b.id := by
  obtain ⟨_, _, _, rfl, _⟩ := fetchDue_eq_ok_iff.mp fetched
  have due : (rows.due now).Pairwise fun a b => a.id ≠ b.id :=
    (List.mergeSort_perm _ _).symm.pairwise (consistent.ids.sublist List.filter_sublist)
      fun different => different.symm
  exact due.sublist (List.take_sublist _ _)

theorem Consistent.fetchDue {rows rows' : OutboxRows} {now clock : Instant} {limit : Int}
    {lease : Period} {entries : List OutboxEntry} (consistent : rows.Consistent)
    (fetched : rows.fetchDue now limit lease clock = .ok (entries, rows')) :
    rows'.Consistent := by
  obtain ⟨claimEnd, _, _, _, rfl⟩ := fetchDue_eq_ok_iff.mp fetched
  refine consistent.map (fun row => ?_) (fun row member => ?_) (fun row member => ?_)
  · split <;> rfl
  · split
    · rename_i taken
      have due := (due_of_fetched fetched ((consistent.mem_fetched fetched member).mp taken)).2
      exact fault?_claim claimEnd clock (consistent.accepted row member)
        (OutboxEntry.pending_of_isDue due)
    · exact consistent.accepted row member
  · split
    · exact congrArg some claimEnd.stored_stored
    · exact consistent.stored row member

theorem Consistent.emitted {rows rows' : OutboxRows} {serial serial' : Nat}
    (consistent : rows.Consistent) (emitted : Emitted rows serial rows' serial') :
    rows'.Consistent := by
  induction emitted with
  | quiet _ => exact consistent
  | put settings event now _ inserted _ _ ih =>
    exact ih.insert inserted (congrArg some now.stored_stored)

theorem Consistent.release {rows rows' : OutboxRows} {entries : List OutboxEntry}
    {clock : Instant} {count : Nat} (consistent : rows.Consistent)
    (released : rows.release entries clock = .ok (count, rows')) : rows'.Consistent :=
  release_preserves released (fun _ _ _ _ _ before amended =>
    before.amend amended (fun _ => rfl) fun _ => stored_map_stored _) consistent

theorem Consistent.applyTransitions {rows rows' : OutboxRows}
    {transitions : List EntryTransition} {clock : Instant} {ids : List Uuid}
    (consistent : rows.Consistent)
    (settled : rows.applyTransitions transitions clock = .ok (ids, rows')) : rows'.Consistent :=
  applyTransitions_preserves settled (fun _ _ _ _ _ before amended =>
    before.amend amended (fun _ => rfl) fun _ => stored_map_stored _) consistent

/-- No call can make a table inconsistent. -/
theorem Consistent.step {table : OutboxTable} {x : Transaction} {rows rows' : OutboxRows}
    {entries : List OutboxEntry} {serial serial' : Nat} (consistent : rows.Consistent)
    (step : Step table x rows serial entries rows' serial') : rows'.Consistent := by
  cases step with
  | emitted emitted => exact consistent.emitted emitted
  | fetched _ _ fetched => exact consistent.fetchDue fetched
  | released _ _ released => exact consistent.release released
  | settled _ _ settled => exact consistent.applyTransitions settled
  | cleaned _ _ cleaned =>
    rw [cleanup_eq_ok cleaned]
    exact consistent.sublist List.filter_sublist
  | @requeued _ due _ _ _ _ requeued =>
    exact consistent.amend (requeueFailed_eq_ok_iff.mp requeued).2 (fun _ => rfl) fun _ =>
      congrArg some due.stored_stored

/-! ### Payloads that can be read -/

/-- Nothing in the table keeps its first rows from being fetched. -/
theorem Readable.fetchable {rows : OutboxRows} {now claimEnd clock : Instant} {limit : Int}
    (readable : rows.Readable) (nonneg : 0 ≤ limit) (known : now.isKnownAt clock = true)
    (ends : claimEnd.isKnownAt clock = true) : rows.Fetchable now limit claimEnd clock where
  nonneg := nonneg
  known := known
  readable row taken := readable row (mem_due.mp (List.mem_of_mem_take taken)).1
  ends _ := ends

/-- A write that keeps the fixed part of every row leaves the payloads as readable as they are. -/
theorem Readable.map {rows : OutboxRows} {f : OutboxEntry → OutboxEntry} (readable : rows.Readable)
    (kept : ∀ row, (f row).isReadable = row.isReadable) : Readable (rows.map f) :=
  List.forall_mem_map.mpr fun row member => (kept row).trans (readable row member)

theorem Readable.amend {rows rows' : OutboxRows} {selects : OutboxEntry → Bool}
    {change : OutboxEntry → OutboxEntry} {count : Nat} (readable : rows.Readable)
    (amended : rows.amend selects change = .ok (rows', count))
    (kept : ∀ row, (change row).isReadable = row.isReadable) : rows'.Readable := by
  obtain ⟨_, rfl, _⟩ := amend_eq_ok_iff.mp amended
  refine readable.map fun row => ?_
  split
  · exact kept row
  · rfl

/-- No call leaves a payload in a table that cannot be read. -/
theorem Readable.step {table : OutboxTable} {x : Transaction} {rows rows' : OutboxRows}
    {entries : List OutboxEntry} {serial serial' : Nat} (readable : rows.Readable)
    (step : Step table x rows serial entries rows' serial') : rows'.Readable := by
  cases step with
  | emitted emitted =>
    induction emitted with
    | quiet _ => exact readable
    | put settings event now _ inserted isReadable _ ih =>
      obtain ⟨_, _, _, rfl⟩ := insert_eq_ok_iff.mp inserted
      exact List.forall_mem_append.mpr ⟨ih, List.forall_mem_singleton.mpr isReadable⟩
  | fetched _ _ fetched =>
    obtain ⟨_, _, _, _, rfl⟩ := fetchDue_eq_ok_iff.mp fetched
    exact readable.map fun row => by split <;> rfl
  | released _ _ released =>
    exact release_preserves released (fun _ _ _ _ _ before amended =>
      before.amend amended fun _ => rfl) readable
  | settled _ _ settled =>
    exact applyTransitions_preserves settled (fun _ _ _ _ _ before amended =>
      before.amend amended fun _ => rfl) readable
  | cleaned _ _ cleaned =>
    rw [cleanup_eq_ok cleaned]
    exact fun row member => readable row (List.mem_filter.mp member).1
  | requeued _ _ requeued =>
    exact readable.amend (requeueFailed_eq_ok_iff.mp requeued).2 fun _ => rfl

end OutboxRows

/-- A run of calls keeps a table consistent. -/
theorem OutboxRows.Consistent.after {s : Store} {table : OutboxTable}
    (consistent : (s.rows table).Consistent) (run : List Transaction) :
    ((s.after run).rows table).Consistent := by
  induction run generalizing s with
  | nil => exact consistent
  | cons x rest ih => exact ih (consistent.step (s.perform_step x table))

/-- Every run of calls from empty tables keeps both outbox tables consistent. -/
theorem Store.after_consistent (run : List Transaction) (table : OutboxTable) :
    (({} : Store).after run |>.rows table).Consistent :=
  OutboxRows.Consistent.after (by cases table <;> exact .empty) run

end OutboxRelay
