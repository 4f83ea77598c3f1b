import Mathlib.Data.List.Perm.Subperm
import OutboxRelay.Proofs.LateRelease
import OutboxRelay.Proofs.Ordering

namespace OutboxRelay

/-- Outside leap seconds a table keeps whole microseconds as they are. -/
theorem Instant.stored_of_micros {t : Instant} (ordinary : t.nanos < nanosPerSecond)
    (micros : t.nanos % 1000 = 0) : t.stored = t := by
  have steps : t.toNanos - storageEpochNanos =
      ((t.secs - 946684800) * 1000000 + (t.nanos / 1000 : Nat)) * 1000 := by
    simp only [toNanos, storageEpochNanos]
    omega
  have kept : storedNanos t.toNanos = t.toNanos := by
    rw [storedNanos, steps, Int.mul_tdiv_cancel _ (by decide), ← steps]
    omega
  rw [stored_eq, kept]
  obtain ⟨secs, nanos⟩ := t
  simp only [ofNanos, toNanos, nanosPerSecond, mk.injEq] at ordinary ⊢
  omega

/-- Whole microseconds and whole microseconds make whole microseconds. -/
theorem Instant.micros_of_add? {t sum : Instant} {p : Period} (ordinary : t.nanos < nanosPerSecond)
    (micros : t.nanos % 1000 = 0) (steps : p.nanos % 1000 = 0) (added : t.add? p = some sum) :
    sum.stored = sum := by
  simp only [add?, if_pos ordinary] at added
  split at added
  · cases added
    refine stored_of_micros (ofNanos_ordinary _) ?_
    simp only [ofNanos, toNanos]
    omega
  · cases added

/-- An entry with another time of its last change. -/
def OutboxEntry.touched (time : Instant) (entry : OutboxEntry) : OutboxEntry :=
  { entry with updatedAt := time }

/-- An entry with another time of its last change, if it is picked. -/
def OutboxEntry.touchedIf (picks : OutboxEntry → Bool) (time : Instant) (entry : OutboxEntry) :
    OutboxEntry :=
  if picks entry then entry.touched time else entry

namespace OutboxEntry
variable (picks : OutboxEntry → Bool) (time : Instant) (entry : OutboxEntry)

@[simp] theorem touchedIf_id : (touchedIf picks time entry).id = entry.id := by
  unfold touchedIf
  split <;> rfl

@[simp] theorem touchedIf_status : (touchedIf picks time entry).status = entry.status := by
  unfold touchedIf
  split <;> rfl

@[simp] theorem touchedIf_nextAttemptAt :
    (touchedIf picks time entry).nextAttemptAt = entry.nextAttemptAt := by
  unfold touchedIf
  split <;> rfl

theorem touched_touchedIf (time' : Instant) :
    (touchedIf picks time entry).touched time' = entry.touched time' := by
  unfold touchedIf
  split <;> rfl

end OutboxEntry

namespace OutboxRows
variable {rows : OutboxRows} {entries given : List OutboxEntry} {row : OutboxEntry}
  {now clock claimEnd claiming giving : Instant} {limit : Int} {lease : Period}

/-- The entries are the first `limit` rows that are due, by schedule and then by identifier. -/
def FirstDue (rows : OutboxRows) (now : Instant) (limit : Int) (entries : List OutboxEntry) :
    Prop :=
  ∃ due : List OutboxEntry, due.Perm (rows.filter (·.isDue now)) ∧
    due.Pairwise OutboxEntry.Precedes ∧ entries = due.take limit.toNat

/-- The rows once entries have been claimed and some of them given back. -/
def held (rows : OutboxRows) (entries given : List OutboxEntry)
    (claimEnd claiming giving : Instant) : OutboxRows :=
  rows.map fun row =>
    if given.any (·.id = row.id) then row.touched giving
    else if entries.any (·.id = row.id) then
      { row with nextAttemptAt := some claimEnd, updatedAt := claiming }
    else row

/-- A guarded write finds at most one row. -/
theorem Consistent.length_untouched {id : Uuid} {attempts : Int} (consistent : rows.Consistent)
    (member : row ∈ rows) (untouched : isUntouched id attempts row = true) :
    (rows.filter (isUntouched id attempts)).length = 1 := by
  have isRow := (isUntouched_iff.mp untouched).1
  have single : [row].Pairwise fun a b => a.id ≠ b.id := List.pairwise_singleton _ row
  have once : rows.countP (isUntouched id attempts) = [row].countP fun _ => true := by
    refine countP_eq_of_keys (·.id) (·.id) consistent.ids single fun other => ?_
    simp only [List.mem_singleton, true_and, exists_eq_left]
    constructor
    · rintro ⟨found, _, reached, rfl⟩
      exact isRow.trans (isUntouched_iff.mp reached).1.symm
    · rintro rfl
      exact ⟨row, member, untouched, rfl⟩
  rw [← List.countP_eq_length_filter, once]
  rfl

/-- A row that waits may get another schedule. -/
theorem fault?_restore {entry : OutboxEntry} (clock : Instant) (accepted : row.fault? = none)
    (pending : row.status = .pending) (scheduled : entry.nextAttemptAt.isSome = true) :
    (restore entry clock row).fault? = none := by
  rw [OutboxEntry.fault?_eq_none_iff, OutboxEntry.isLawful_iff] at *
  obtain ⟨texts, attempts, maxAttempts, nonneg, positive, _⟩ := accepted
  refine ⟨texts, attempts, maxAttempts, nonneg, positive, fun _ => ?_, fun _ => pending⟩
  exact (Option.isSome_map ..).trans scheduled

/-- All entries go back whose rows are still as the copies say. -/
theorem Consistent.release_all (consistent : rows.Consistent) (clock : Instant)
    (distinct : entries.Pairwise fun a b => a.id ≠ b.id)
    (scheduled : ∀ entry ∈ entries, entry.nextAttemptAt.isSome = true)
    (current : ∀ entry ∈ entries, ∃ row ∈ rows, isUntouched entry.id entry.attempts row = true) :
    ∃ rows', rows.release entries clock = .ok (entries.length, rows') := by
  induction entries generalizing rows with
  | nil => exact ⟨rows, rfl⟩
  | cons entry rest ih =>
    obtain ⟨different, distinct'⟩ := List.pairwise_cons.mp distinct
    obtain ⟨row, member, untouched⟩ := current entry List.mem_cons_self
    have accepted : ∀ row ∈ rows, isUntouched entry.id entry.attempts row = true →
        (restore entry clock row).fault? = none := fun row member reached =>
      fault?_restore clock (consistent.accepted row member) (isUntouched_iff.mp reached).2.1
        (scheduled entry List.mem_cons_self)
    have first := amend_eq_ok_iff.mpr
      ⟨accepted, rfl, (consistent.length_untouched member untouched).symm⟩
    -- the write is to one row, so the others still are as their copies say
    obtain ⟨rows', others⟩ := ih
      (consistent.amend first (fun _ => rfl) fun _ => stored_map_stored _) distinct'
      (fun other later => scheduled other (List.mem_cons_of_mem _ later))
      (fun other later => (untouched_amend_iff (different other later) first fun _ => rfl).mpr
        (current other (List.mem_cons_of_mem _ later)))
    refine ⟨rows', release_cons_eq_ok_iff.mpr ⟨_, _, _, first, others, ?_⟩⟩
    rw [List.length_cons, Nat.add_comm]

theorem firstDue_due (rows : OutboxRows) (now : Instant) (limit : Int) :
    rows.FirstDue now.stored limit ((rows.due now).take limit.toNat) :=
  ⟨rows.due now, rows.due_perm now, rows.due_sorted now, rfl⟩

/-- A fetch claims the first due rows and returns them as they were. -/
theorem Fetchable.held (fetchable : rows.Fetchable now limit claimEnd claiming)
    (ends : now.add? lease = some claimEnd) :
    let entries := (rows.due now).take limit.toNat
    rows.fetchDue now limit lease claiming =
      .ok (entries, rows.held entries [] claimEnd.stored claiming claiming) :=
  fetchDue_eq_ok_iff.mpr ⟨claimEnd, ends, fetchable, rfl, rfl⟩

/-- No table is asked for what is due at a time that it does not know. -/
theorem fetchDue_unknown (ends : now.add? lease = some claimEnd)
    (unknown : now.isKnownAt clock = false) :
    rows.fetchDue now limit lease clock = .error (.database .timeRange) := by
  rw [fetchDue, OutboxTable.claimEnd, ends, firstDue, unknown]
  rfl

/-- One payload that cannot be read keeps all from being fetched. -/
theorem fetchDue_unreadable (ends : now.add? lease = some claimEnd) (nonneg : 0 ≤ limit)
    (known : now.isKnownAt clock = true) (member : row ∈ (rows.due now).take limit.toNat)
    (unreadable : row.isReadable = false) :
    rows.fetchDue now limit lease clock = .error (.database .unreadable) := by
  have some : ¬((rows.due now).take limit.toNat).all (·.isReadable) = true := fun all =>
    absurd (List.all_eq_true.mp all row member) (by rw [unreadable]; exact nofun)
  rw [fetchDue, OutboxTable.claimEnd, ends, firstDue, known, if_neg (by decide : ¬(!true) = true),
    if_neg (Int.not_lt.mpr nonneg)]
  dsimp only
  rw [if_neg some]
  rfl

/-- No row is hidden until a time that the table does not know. -/
theorem fetchDue_unending (ends : now.add? lease = some claimEnd) (nonneg : 0 ≤ limit)
    (known : now.isKnownAt clock = true)
    (readable : ∀ row ∈ (rows.due now).take limit.toNat, row.isReadable = true)
    (some : (rows.due now).take limit.toNat ≠ []) (unknown : claimEnd.isKnownAt clock = false) :
    rows.fetchDue now limit lease clock = .error (.database .timeRange) := by
  have first := firstDue_eq_ok_iff.mpr ⟨known, nonneg, rfl, readable⟩
  have claims : ¬((rows.due now).take limit.toNat).isEmpty = true := mt List.isEmpty_iff.mp some
  rw [fetchDue, OutboxTable.claimEnd, ends, first]
  refine (if_neg claims).trans ?_
  rw [claimAll, unknown]
  rfl

/-- What goes back after a claim is as before, but for the time of its last change. -/
theorem Consistent.held_restored (consistent : rows.Consistent)
    (distinct : given.Pairwise fun a b => a.id ≠ b.id) (taken : given ⊆ entries)
    (there : entries ⊆ rows) (claimEnd claiming giving : Instant) :
    (rows.held entries [] claimEnd claiming claiming).map
        (rewrite (given.map (GuardedWrite.giveBack giving))) =
      rows.held entries given claimEnd claiming giving := by
  rw [held, held, List.map_map]
  refine List.map_congr_left fun row member => ?_
  simp only [Function.comp_apply, List.any_nil, Bool.false_eq_true, if_false]
  by_cases back : given.any (·.id = row.id) = true
  · obtain ⟨entry, isGiven, same⟩ := List.any_eq_true.mp back
    have isRow : entry = row :=
      consistent.eq_of_id (there (taken isGiven)) member (of_decide_eq_true same)
    subst isRow
    have claimed : entries.any (·.id = entry.id) = true :=
      List.any_eq_true.mpr ⟨entry, taken isGiven, same⟩
    rw [if_pos back, if_pos claimed, rewrite_of_mem (List.pairwise_map.mpr distinct)
      (List.mem_map_of_mem isGiven) rfl]
    simp only [GuardedWrite.giveBack, restore, consistent.stored entry member,
      OutboxEntry.touched]
  · rw [if_neg back]
    refine rewrite_of_not_mem fun w isWrite same => back ?_
    obtain ⟨entry, isGiven, rfl⟩ := List.mem_map.mp isWrite
    refine List.any_eq_true.mpr ⟨entry, isGiven, decide_eq_true (same.trans ?_)⟩
    split <;> rfl

/-- Right after a fetch any of its entries go back, in any order, and only they. -/
theorem Consistent.release_held (consistent : rows.Consistent)
    (ends : now.add? lease = some claimEnd)
    (fetched : rows.fetchDue now limit lease claiming =
      .ok (entries, rows.held entries [] claimEnd.stored claiming claiming))
    (chosen : given.Subperm entries) (giving : Instant) :
    (rows.held entries [] claimEnd.stored claiming claiming).release given giving =
      .ok (given.length, rows.held entries given claimEnd.stored claiming giving) := by
  have distinct : given.Pairwise fun a b => a.id ≠ b.id := by
    obtain ⟨sub, perm, within⟩ := chosen
    exact ((consistent.fetched_distinct fetched).sublist within).perm perm Ne.symm
  have scheduled : ∀ entry ∈ given, entry.nextAttemptAt.isSome = true := by
    intro entry taken
    have due := (due_of_fetched fetched (chosen.subset taken)).2
    obtain ⟨next, scheduled⟩ := OutboxEntry.scheduled_of_isDue due
    rw [scheduled, Option.isSome_some]
  obtain ⟨rows', released⟩ := (consistent.fetchDue fetched).release_all giving distinct scheduled
    fun entry taken => by
      have claimed := consistent.claim_mem fetched ends (chosen.subset taken)
      exact ⟨_, claimed,
        consistent.untouched_of_claimed fetched (chosen.subset taken) claimed rfl⟩
  rw [released, release_eq_writes released, foldl_write (List.pairwise_map.mpr distinct)
    (giveBack_keeps given giving)]
  · have there : entries ⊆ rows := fun entry taken => (due_of_fetched fetched taken).1
    rw [consistent.held_restored distinct chosen.subset there]
  · intro w member row inRows same
    obtain ⟨entry, taken, rfl⟩ := List.mem_map.mp member
    exact consistent.untouched_of_claimed fetched (chosen.subset taken) inRows same

/-- For what is due, and for its order, the time of the last change does not matter. -/
theorem due_touched (rows : OutboxRows) (picks : OutboxEntry → Bool) (now time : Instant) :
    OutboxRows.due (rows.map (OutboxEntry.touchedIf picks time)) now =
      (rows.due now).map (OutboxEntry.touchedIf picks time) := by
  have sameDue : (fun row : OutboxEntry => row.isDue now.stored) ∘ OutboxEntry.touchedIf picks time =
      fun row : OutboxEntry => row.isDue now.stored := by
    funext row
    simp only [Function.comp_apply, OutboxEntry.isDue, OutboxEntry.touchedIf_status,
      OutboxEntry.touchedIf_nextAttemptAt]
  rw [due, due, List.filter_map, sameDue]
  refine (List.map_mergeSort fun a _ b _ => ?_).symm
  simp only [OutboxEntry.scheduledBefore, OutboxEntry.touchedIf_nextAttemptAt,
    OutboxEntry.touchedIf_id]

/-- When all that a fetch claimed has gone back, the rows are as before it, but for the times of
their last change. -/
theorem held_all (rows : OutboxRows) (all : given.Perm entries)
    (claimEnd claiming giving : Instant) :
    rows.held entries given claimEnd claiming giving =
      rows.map (.touchedIf (fun row => entries.any (·.id = row.id)) giving) := by
  refine List.map_congr_left fun row _ => ?_
  have same : given.any (·.id = row.id) = entries.any (·.id = row.id) := all.any_eq
  rw [same, OutboxEntry.touchedIf]
  by_cases claimed : entries.any (·.id = row.id) = true
  · rw [if_pos claimed, if_pos claimed]
  · rw [if_neg claimed, if_neg claimed, if_neg claimed]

theorem map_touched_held (rows : OutboxRows) (all : given.Perm entries)
    (claimEnd claiming giving time : Instant) :
    (rows.held entries given claimEnd claiming giving).map (OutboxEntry.touched time) =
      rows.map (OutboxEntry.touched time) := by
  rw [held_all rows all, List.map_map]
  refine List.map_congr_left fun row _ => ?_
  exact row.touched_touchedIf _ giving time

/-- Then the same fetch returns the same entries. -/
theorem fetchDue_again (all : given.Perm entries) (held : Instant)
    (fetchable : rows.Fetchable now limit claimEnd claiming)
    (isDue : entries = (rows.due now).take limit.toNat) (ends : now.add? lease = some claimEnd)
    (giving : Instant) {again : Instant} (known : now.isKnownAt again = true)
    (lasting : entries ≠ [] → claimEnd.isKnownAt again = true) :
    ∃ rows', (rows.held entries given held claiming giving).fetchDue now limit lease again =
      .ok (entries.map (OutboxEntry.touched giving), rows') := by
  -- the rows that are due are those of the first fetch, with another time of their last change
  have same : ((rows.held entries given held claiming giving).due now).take limit.toNat =
      entries.map (OutboxEntry.touched giving) := by
    rw [held_all rows all, due_touched, ← List.map_take, ← isDue]
    refine List.map_congr_left fun entry taken => if_pos ?_
    exact List.any_eq_true.mpr ⟨entry, taken, decide_eq_true rfl⟩
  have fetchable' : (rows.held entries given held claiming giving).Fetchable now limit claimEnd
      again := by
    refine ⟨fetchable.nonneg, known, fun row taken => ?_, fun some => ?_⟩
    · rw [same] at taken
      obtain ⟨entry, isEntry, rfl⟩ := List.mem_map.mp taken
      exact fetchable.readable entry (isDue ▸ isEntry)
    · rw [same] at some
      exact lasting fun none => some (by rw [none]; rfl)
  exact ⟨_, fetchDue_eq_ok_iff.mpr ⟨claimEnd, ends, fetchable', same.symm, rfl⟩⟩

end OutboxRows

namespace Store
variable {s : Store} {table : OutboxTable}

/-- A store after a write to an outbox table. -/
def withRows (s : Store) (table : OutboxTable) (rows : OutboxRows) : Store :=
  { s with tables := s.tables.setOutbox table rows }

@[simp] theorem rows_withRows (s : Store) (table : OutboxTable) (rows : OutboxRows) :
    (s.withRows table rows).rows table = rows :=
  Tables.outbox_setOutbox _ _ _

theorem withRows_withRows (s : Store) (table : OutboxTable) (rows rows' : OutboxRows) :
    (s.withRows table rows).withRows table rows' = s.withRows table rows' := by
  cases table <;> rfl

theorem withRows_rows (s : Store) (table : OutboxTable) : s.withRows table (s.rows table) = s := by
  cases table <;> rfl

/-- A write to an outbox table that goes through. -/
theorem atomic_write {α β : Type} (operation : OutboxRows → Except Error (α × OutboxRows))
    (g : α → β) {a : α} {rows : OutboxRows} (done : operation (s.rows table) = .ok (a, rows)) :
    s.atomic (g <$> Work.onOutbox table operation) = (.ok (g a), s.withRows table rows) := by
  change operation (s.tables.outbox table) = .ok (a, rows) at done
  rw [s.atomic_onOutbox, done]
  rfl

/-- A write to an outbox table that is refused. -/
theorem atomic_refused {α β : Type} (operation : OutboxRows → Except Error (α × OutboxRows))
    (g : α → β) {e : Error} (refused : operation (s.rows table) = .error e) :
    s.atomic (g <$> Work.onOutbox table operation) = (.error e, s) := by
  change operation (s.tables.outbox table) = .error e at refused
  rw [s.atomic_onOutbox, refused]

/-- A store in which entries of an outbox table have been claimed and some of them given back. -/
def held (s : Store) (table : OutboxTable) (entries given : List OutboxEntry)
    (claimEnd claiming giving : Instant) : Store :=
  s.withRows table ((s.rows table).held entries given claimEnd.stored claiming giving)

/-- A fetch returns `entries` as they are, the first that are due, and claims exactly those. Any of
them that go back right afterwards, in any order, get their schedule back, and no other row changes.
When all of them have gone back, the table is as before but for the times of the last change, and
the same fetch returns the same entries. -/
structure Claim (s : Store) (db : Database) (now claimEnd : Instant) (limit : Int) (lease : Period)
    (claiming : Instant) (entries : List OutboxEntry) : Prop where
  first : (s.rows db.outbox.table).FirstDue now.stored limit entries
  fetched : s.perform ⟨db, claiming, .fetchDue now limit lease⟩ =
    (.ok (.entries entries), s.held db.outbox.table entries [] claimEnd claiming claiming)
  released : ∀ given giving, given.Subperm entries →
    (s.held db.outbox.table entries [] claimEnd claiming claiming).perform
        ⟨db, giving, .release given⟩ =
      (.ok (.count given.length), s.held db.outbox.table entries given claimEnd claiming giving)
  restored : ∀ given giving time, given.Perm entries →
    ((s.held db.outbox.table entries given claimEnd claiming giving).rows db.outbox.table).map
        (OutboxEntry.touched time) =
      (s.rows db.outbox.table).map (OutboxEntry.touched time)
  again : ∀ given giving time, given.Perm entries →
    ((s.held db.outbox.table entries given claimEnd claiming giving).perform
        ⟨db, time, .fetchDue now limit lease⟩).1 =
      .ok (.entries (entries.map (OutboxEntry.touched giving)))

/-- What comes of a fetch, when `entries` are the first that are due: it claims them, or the store is
as it was, since the table does not know the time that it is asked about or the end of the claim, or
since the payload of one of them cannot be read. -/
structure Fetches (s : Store) (db : Database) (now claimEnd : Instant) (limit : Int)
    (lease : Period) (claiming : Instant) (entries : List OutboxEntry) : Prop where
  claim : now.isStorable = true → (∀ entry ∈ entries, entry.isReadable = true) →
    (entries ≠ [] → claimEnd.isStorable = true) →
    s.Claim db now claimEnd limit lease claiming entries
  unknown : now.isStorable = false →
    s.perform ⟨db, claiming, .fetchDue now limit lease⟩ = (.error (.database .timeRange), s)
  unreadable : now.isStorable = true → (∃ entry ∈ entries, entry.isReadable = false) →
    s.perform ⟨db, claiming, .fetchDue now limit lease⟩ = (.error (.database .unreadable), s)
  unending : now.isStorable = true → (∀ entry ∈ entries, entry.isReadable = true) →
    entries ≠ [] → claimEnd.isStorable = false →
    s.perform ⟨db, claiming, .fetchDue now limit lease⟩ = (.error (.database .timeRange), s)

open OutboxRows in
theorem claim_of_fetchable {now claimEnd claiming : Instant} {limit : Int} {lease : Period}
    (db : Database) (consistent : (s.rows db.outbox.table).Consistent)
    (fetchable : (s.rows db.outbox.table).Fetchable now limit claimEnd claiming)
    (ends : now.add? lease = some claimEnd) (storable : now.isStorable = true)
    (lasting : ((s.rows db.outbox.table).due now).take limit.toNat ≠ [] →
      claimEnd.isStorable = true) :
    s.Claim db now claimEnd limit lease claiming
      (((s.rows db.outbox.table).due now).take limit.toNat) where
  first := firstDue_due _ now limit
  fetched := (s.perform_fetchDue db claiming now limit lease).trans
    (atomic_write (fun rows => rows.fetchDue now limit lease claiming) Reply.entries
      (fetchable.held ends))
  released given giving chosen := by
    have released := consistent.release_held ends (fetchable.held ends) chosen giving
    rw [← s.rows_withRows db.outbox.table (OutboxRows.held _ _ [] _ _ _)] at released
    have performed := atomic_write (fun rows => rows.release given giving) Reply.count released
    rw [withRows_withRows] at performed
    exact (perform_release _ db giving given).trans performed
  restored given giving time all := by
    rw [held, rows_withRows]
    exact map_touched_held _ all _ _ _ _
  again given giving time all := by
    obtain ⟨_, found⟩ := fetchDue_again all claimEnd.stored fetchable rfl ends giving
      (Instant.isKnownAt_of_storable storable time)
      fun some => Instant.isKnownAt_of_storable (lasting some) time
    rw [← s.rows_withRows db.outbox.table (OutboxRows.held _ _ given _ _ _)] at found
    exact congrArg Prod.fst ((perform_fetchDue _ db time now limit lease).trans
      (atomic_write (fun rows => rows.fetchDue now limit lease time) Reply.entries found))

/-- What a fetch claims, and how that is undone. The clock of the tables shows a time that they know;
they know none before 4713 BC. They know no leap seconds either, and read them as the second after.
Every other time in whole microseconds is the same there. -/
theorem fetch_and_release {now claimEnd claiming : Instant} {limit : Int} {lease : Period}
    (db : Database) (consistent : (s.rows db.outbox.table).Consistent) (nonneg : 0 ≤ limit)
    (ends : now.add? lease = some claimEnd) (known : claiming.isStorable = true) :
    (∃ entries, (s.rows db.outbox.table).FirstDue now.stored limit entries ∧
      s.Fetches db now claimEnd limit lease claiming entries) ∧
      (now.nanos < nanosPerSecond → now.nanos % 1000 = 0 → lease.nanos % 1000 = 0 →
        now.stored = now ∧ claimEnd.stored = claimEnd) := by
  have isKnown : ∀ time : Instant, time.isKnownAt claiming = time.isStorable := fun time =>
    time.isKnownAt_eq known
  have refused : ∀ fault, (s.rows db.outbox.table).fetchDue now limit lease claiming =
      .error (.database fault) → s.perform ⟨db, claiming, .fetchDue now limit lease⟩ =
        (.error (.database fault), s) := fun fault refused =>
    (s.perform_fetchDue db claiming now limit lease).trans (atomic_refused _ _ refused)
  refine ⟨⟨_, OutboxRows.firstDue_due _ now limit, ?_⟩, fun ordinary micros steps =>
    ⟨Instant.stored_of_micros ordinary micros, Instant.micros_of_add? ordinary micros steps ends⟩⟩
  refine { claim := fun storable readable lasting => ?_, unknown := fun early => ?_,
           unreadable := fun storable some => ?_,
           unending := fun storable readable some early => ?_ }
  · exact claim_of_fetchable db consistent
      ⟨nonneg, (isKnown now).trans storable, readable, fun some =>
        (isKnown claimEnd).trans (lasting some)⟩ ends storable lasting
  · exact refused _ (OutboxRows.fetchDue_unknown ends ((isKnown now).trans early))
  · obtain ⟨entry, member, unreadable⟩ := some
    exact refused _ (OutboxRows.fetchDue_unreadable ends nonneg ((isKnown now).trans storable)
      member unreadable)
  · exact refused _ (OutboxRows.fetchDue_unending ends nonneg ((isKnown now).trans storable)
      readable some ((isKnown claimEnd).trans early))

/-- The theorem about two events that are fetched as soon as they are emitted. -/
theorem fetch_and_release_two :
    let now : Instant := ⟨1767225600, 0⟩
    let emit : String → Transaction := fun id =>
      ⟨{}, now, .emit ⟨"file", id, "file.stored", none, none⟩⟩
    let s := ({} : Store).after [emit "1", emit "2"]
    (s.rows .core).Consistent ∧ now.add? (Period.ofSeconds 300) = some ⟨1767225900, 0⟩ ∧
      now.isStorable = true ∧ ∃ entries, entries.length = 2 ∧
        s.Claim {} now ⟨1767225900, 0⟩ 20 (Period.ofSeconds 300) now entries := by
  intro now emit s
  have consistent : (s.rows .core).Consistent := after_consistent _ _
  have ends : now.add? (Period.ofSeconds 300) = some ⟨1767225900, 0⟩ := by decide
  have nonneg : (0 : Int) ≤ 20 := by decide
  have known : now.isStorable = true := by decide
  obtain ⟨entries, first, fetches⟩ := (fetch_and_release {} consistent nonneg ends known).1
  obtain ⟨due, all, _, isFirst⟩ := first
  have two : ((s.rows .core).filter (·.isDue now.stored)).length = 2 := by decide +kernel
  have readable : ∀ row ∈ s.rows .core, row.isReadable = true := by decide +kernel
  have claim := fetches.claim known (fun entry member => ?_) fun _ => by decide
  · refine ⟨consistent, ends, known, entries, ?_, claim⟩
    rw [isFirst, List.length_take, all.length_eq]
    exact congrArg (min 20) two
  · have isDue := all.mem_iff.mp (List.mem_of_mem_take (isFirst ▸ member))
    exact readable entry (List.mem_filter.mp isDue).1

/-- In a leap second a fetch also returns what is due in the second after, half a second into which
the table takes this clock to be. -/
theorem not_first_due_in_leap_second :
    ¬∀ (s : Store) (db : Database) (now claimEnd : Instant) (limit : Int) (lease : Period)
        (claiming : Instant), (s.rows db.outbox.table).Consistent → 0 ≤ limit →
      now.add? lease = some claimEnd → now.nanos % 1000 = 0 → lease.nanos % 1000 = 0 →
      ∃ entries, (s.rows db.outbox.table).FirstDue now limit entries ∧
        (s.perform ⟨db, claiming, .fetchDue now limit lease⟩).1 = .ok (.entries entries) := by
  intro claim
  -- 2016-12-31T23:59:60.5Z, and a fifth of a second into the new year
  let now : Instant := ⟨1483228799, 1500000000⟩
  let next : Instant := ⟨1483228800, 200000000⟩
  let s := ({} : Store).after [⟨{}, next, .emit ⟨"file", "1", "file.stored", none, none⟩⟩]
  obtain ⟨entries, ⟨due, all, _, first⟩, fetched⟩ := claim s {} now ⟨1483229099, 500000000⟩ 20
    (Period.ofSeconds 300) now (after_consistent _ _) (by decide) (by decide) (by decide)
    (by decide)
  have early : ((s.rows .core).filter (·.isDue now)).isEmpty = true := by decide +kernel
  have none : due = [] := (List.isEmpty_iff.mp early ▸ all).eq_nil
  have returned : ((Transaction.mk {} now (.fetchDue now 20 (Period.ofSeconds 300))).fetched .core
      (s.perform ⟨{}, now, .fetchDue now 20 (Period.ofSeconds 300)⟩).1).map (·.id) =
        [Uuid.ofSerial 0] := by decide +kernel
  rw [fetched, first, none] at returned
  cases returned

end Store

end OutboxRelay
