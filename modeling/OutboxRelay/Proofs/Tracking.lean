import Mathlib.Algebra.Group.Nat.Defs
import OutboxRelay.Proofs.Lifecycle
import OutboxRelay.Proofs.TableConsistency

namespace OutboxRelay

/-- Numbers below 2¹²⁸ give different identifiers. -/
theorem Uuid.ofSerial_ne {m n : Nat} (before : m < n) (room : n < 2 ^ 128) :
    Uuid.ofSerial m ≠ Uuid.ofSerial n := by
  intro same
  have numbers := congrArg (fun id : Uuid => id.bits.toNat) same
  simp only [Uuid.ofSerial, Uuid.ofNat, BitVec.toNat_ofNat] at numbers
  omega

/-- What connects the rows of a table with the copies of them that sweeps hold, when `serial`
counts the identifiers in use. A copy may be out of date, but only as to what deliveries, claims
and operators change. -/
structure OutboxRows.Tracked (rows : OutboxRows) (serial : Nat) (copies : List OutboxEntry) :
    Prop where
  lifecycle : ∀ e, e ∈ rows ∨ e ∈ copies → e.InLifecycle
  issued : ∀ e, e ∈ rows ∨ e ∈ copies → ∃ number < serial, e.id = Uuid.ofSerial number
  copied : ∀ copy ∈ copies, ∀ row ∈ rows, row.id = copy.id → row.fixedPart = copy.fixedPart
  claimed : ∀ copy ∈ copies, copy.status = .pending ∧ copy.fault? = none

namespace OutboxRows
variable {table : OutboxTable} {rows rows' : OutboxRows} {serial serial' : Nat}
  {copies : List OutboxEntry}

theorem Tracked.empty : Tracked [] serial [] :=
  ⟨by simp, by simp, List.forall_mem_nil _, List.forall_mem_nil _⟩

theorem Tracked.later (tracked : rows.Tracked serial copies) (bound : serial ≤ serial') :
    rows.Tracked serial' copies where
  lifecycle := tracked.lifecycle
  issued e present := by
    obtain ⟨number, before, same⟩ := tracked.issued e present
    exact ⟨number, by omega, same⟩
  copied := tracked.copied
  claimed := tracked.claimed

theorem Tracked.sublist (tracked : rows.Tracked serial copies) (sub : rows'.Sublist rows) :
    rows'.Tracked serial copies where
  lifecycle e present := tracked.lifecycle e (present.imp_left (sub.subset ·))
  issued e present := tracked.issued e (present.imp_left (sub.subset ·))
  copied copy held row member := tracked.copied copy held row (sub.subset member)
  claimed := tracked.claimed

/-- A write that keeps the fixed parts has to keep to the lifecycle, and nothing else. -/
theorem Tracked.map {f : OutboxEntry → OutboxEntry} (tracked : rows.Tracked serial copies)
    (fixed : ∀ row, (f row).fixedPart = row.fixedPart)
    (life : ∀ row ∈ rows, (f row).InLifecycle) : Tracked (rows.map f) serial copies where
  lifecycle := by
    rintro e (member | held)
    · obtain ⟨row, inRows, rfl⟩ := List.mem_map.mp member
      exact life row inRows
    · exact tracked.lifecycle e (.inr held)
  issued := by
    rintro e (member | held)
    · obtain ⟨row, inRows, rfl⟩ := List.mem_map.mp member
      rw [OutboxEntry.id_of_fixedPart (fixed row)]
      exact tracked.issued row (.inl inRows)
    · exact tracked.issued e (.inr held)
  copied := by
    intro copy held changed member same
    obtain ⟨row, inRows, rfl⟩ := List.mem_map.mp member
    rw [OutboxEntry.id_of_fixedPart (fixed row)] at same
    exact (fixed row).trans (tracked.copied copy held row inRows same)
  claimed := tracked.claimed

theorem Tracked.amend {selects : OutboxEntry → Bool} {change : OutboxEntry → OutboxEntry}
    {count : Nat} (tracked : rows.Tracked serial copies)
    (amended : rows.amend selects change = .ok (rows', count))
    (fixed : ∀ row, (change row).fixedPart = row.fixedPart)
    (life : ∀ row ∈ rows, selects row = true → (change row).InLifecycle) :
    rows'.Tracked serial copies := by
  obtain ⟨_, rfl, _⟩ := amend_eq_ok_iff.mp amended
  refine tracked.map (fun row => ?_) (fun row member => ?_)
  · split
    · exact fixed row
    · rfl
  · split
    · rename_i selected
      exact life row member selected
    · exact tracked.lifecycle row (.inl member)

theorem Tracked.hold (tracked : rows.Tracked serial copies) {entries : List OutboxEntry}
    (consistent : rows.Consistent)
    (due : ∀ entry ∈ entries, entry ∈ rows ∧ entry.status = .pending) :
    rows.Tracked serial (copies ++ entries) where
  lifecycle := by
    rintro e (member | held)
    · exact tracked.lifecycle e (.inl member)
    · rcases List.mem_append.mp held with old | new
      · exact tracked.lifecycle e (.inr old)
      · exact tracked.lifecycle e (.inl (due e new).1)
  issued := by
    rintro e (member | held)
    · exact tracked.issued e (.inl member)
    · rcases List.mem_append.mp held with old | new
      · exact tracked.issued e (.inr old)
      · exact tracked.issued e (.inl (due e new).1)
  copied := by
    intro copy held row member same
    rcases List.mem_append.mp held with old | new
    · exact tracked.copied copy old row member same
    · exact congrArg OutboxEntry.fixedPart (consistent.eq_of_id member (due copy new).1 same)
  claimed := by
    intro copy held
    rcases List.mem_append.mp held with old | new
    · exact tracked.claimed copy old
    · exact ⟨(due copy new).2, consistent.accepted copy (due copy new).1⟩

theorem Tracked.fetchDue {now clock : Instant} {limit : Int} {lease : Period}
    {entries : List OutboxEntry} (tracked : rows.Tracked serial copies)
    (consistent : rows.Consistent)
    (fetched : rows.fetchDue now limit lease clock = .ok (entries, rows')) :
    rows'.Tracked serial (copies ++ entries) := by
  have due : ∀ entry ∈ entries, entry ∈ rows ∧ entry.status = .pending := fun entry taken =>
    (due_of_fetched fetched taken).imp_right OutboxEntry.pending_of_isDue
  obtain ⟨claimEnd, _, _, _, rfl⟩ := fetchDue_eq_ok_iff.mp fetched
  refine (tracked.hold consistent due).map (fun row => ?_) (fun row member => ?_)
  · split <;> rfl
  · have life := tracked.lifecycle row (.inl member)
    split
    · rename_i taken
      exact life.reschedule (due row ((consistent.mem_fetched fetched member).mp taken)).2 _ clock
    · exact life

/-- A copy that is given back has a schedule to give back. -/
theorem Tracked.life_restore {row copy : OutboxEntry} (tracked : rows.Tracked serial copies)
    (member : row ∈ rows) (held : copy ∈ copies) (clock : Instant)
    (untouched : isUntouched copy.id copy.attempts row = true) :
    (restore copy clock row).InLifecycle := by
  have life := tracked.lifecycle copy (.inr held)
  obtain ⟨next, scheduled⟩ :=
    Option.isSome_iff_exists.mp (life.scheduled.mpr (tracked.claimed copy held).1)
  unfold OutboxRows.restore
  rw [scheduled]
  exact (tracked.lifecycle row (.inl member)).reschedule (isUntouched_iff.mp untouched).2.1 _ clock

theorem Tracked.life_settle {row copy : OutboxEntry} {t : EntryTransition}
    (tracked : rows.Tracked serial copies) (member : row ∈ rows) (held : copy ∈ copies)
    (attempted : copy.Attempted t) (clock : Instant)
    (untouched : isUntouched t.id t.previousAttempts row = true) :
    (settle t clock row).InLifecycle := by
  obtain ⟨sameId, pending, sameAttempts⟩ := isUntouched_iff.mp untouched
  rw [attempted.id] at sameId
  rw [attempted.previousAttempts] at sameAttempts
  obtain ⟨_, _, _, _, _, _, limit, _⟩ :=
    OutboxEntry.fixedPart_eq_iff.mp (tracked.copied copy held row member sameId)
  exact (tracked.lifecycle row (.inl member)).settle pending sameAttempts limit attempted clock

theorem Tracked.life_renew {row : OutboxEntry} {ids : List Uuid} (tracked : rows.Tracked serial copies)
    (consistent : rows.Consistent) (member : row ∈ rows)
    (selected : (ids.contains row.id && row.status = .failed) = true) (due clock : Instant) :
    (renew due clock row).InLifecycle := by
  simp only [Bool.and_eq_true, decide_eq_true_eq] at selected
  exact (tracked.lifecycle row (.inl member)).renew selected.2 (consistent.lawful member).2.1 due
    clock

/-- No table refuses a write after which the row is in its lifecycle, unless for its message. -/
theorem Consistent.amend_ok (consistent : rows.Consistent) (selects : OutboxEntry → Bool)
    (change : OutboxEntry → OutboxEntry) (fixed : ∀ row, (change row).fixedPart = row.fixedPart)
    (life : ∀ row ∈ rows, selects row = true → (change row).InLifecycle)
    (messages : ∀ row ∈ rows, hasNull (change row).errorMessage = false) :
    ∃ rows' count, rows.amend selects change = .ok (rows', count) :=
  ⟨_, _, amend_eq_ok_iff.mpr ⟨fun row member selected =>
    (life row member selected).fault?_eq_none (fixed row) (consistent.accepted row member)
      (messages row member), rfl, rfl⟩⟩

theorem Tracked.release {entries : List OutboxEntry} {clock : Instant} {count : Nat}
    (tracked : rows.Tracked serial copies) (held : ∀ entry ∈ entries, entry ∈ copies)
    (released : rows.release entries clock = .ok (count, rows')) : rows'.Tracked serial copies :=
  release_preserves (P := fun rows => Tracked rows serial copies) released
    (fun entry taken _ _ _ kept amended => kept.amend amended (fun _ => rfl)
      fun _ member untouched => kept.life_restore member (held entry taken) clock untouched) tracked

theorem Tracked.applyTransitions {transitions : List EntryTransition} {clock : Instant}
    {ids : List Uuid} (tracked : rows.Tracked serial copies)
    (attempted : ∀ t ∈ transitions, ∃ entry ∈ copies, entry.Attempted t)
    (settled : rows.applyTransitions transitions clock = .ok (ids, rows')) :
    rows'.Tracked serial copies := by
  refine applyTransitions_preserves (P := fun rows => Tracked rows serial copies) settled
    (fun t taken before after n kept amended => ?_) tracked
  obtain ⟨copy, held, came⟩ := attempted t taken
  exact kept.amend amended (fun _ => rfl) fun row member untouched =>
    kept.life_settle member held came clock untouched

theorem Tracked.release_ok {entries : List OutboxEntry} (tracked : rows.Tracked serial copies)
    (consistent : rows.Consistent) (held : ∀ entry ∈ entries, entry ∈ copies) (clock : Instant) :
    ∃ count rows', rows.release entries clock = .ok (count, rows') := by
  induction entries generalizing rows with
  | nil => exact ⟨0, rows, rfl⟩
  | cons entry rest ih =>
    have life : ∀ row ∈ rows, isUntouched entry.id entry.attempts row = true →
        (restore entry clock row).InLifecycle := fun row member =>
      tracked.life_restore member (held entry List.mem_cons_self) clock
    obtain ⟨between, n, first⟩ := consistent.amend_ok _ (restore entry clock) (fun _ => rfl) life
      fun row member => (OutboxEntry.fault?_eq_none_iff.mp (consistent.accepted row member)).1.2
    obtain ⟨more, last, others⟩ := ih (tracked.amend first (fun _ => rfl) life)
      (consistent.amend first (fun _ => rfl) fun _ => stored_map_stored _)
      fun other member => held other (List.mem_cons_of_mem _ member)
    exact ⟨n + more, last, release_cons_eq_ok_iff.mpr ⟨between, n, more, first, others, rfl⟩⟩

theorem Tracked.applyTransitions_error {transitions : List EntryTransition} {e : Error}
    {clock : Instant} (tracked : rows.Tracked serial copies) (consistent : rows.Consistent)
    (attempted : ∀ t ∈ transitions, ∃ entry ∈ copies, entry.Attempted t)
    (refused : rows.applyTransitions transitions clock = .error e) :
    e = .database .nullCharacter ∧ ∃ t ∈ transitions, hasNull t.errorMessage = true := by
  induction transitions generalizing rows with
  | nil => cases refused
  | cons t rest ih =>
    by_cases null : hasNull t.errorMessage = true
    · rw [OutboxRows.applyTransitions, applyTransition, if_pos null] at refused
      cases refused
      exact ⟨rfl, t, List.mem_cons_self, null⟩
    · obtain ⟨copy, held, came⟩ := attempted t List.mem_cons_self
      have life : ∀ row ∈ rows, isUntouched t.id t.previousAttempts row = true →
          (settle t clock row).InLifecycle := fun row member =>
        tracked.life_settle member held came clock
      have faultless : hasNull t.errorMessage = false := Bool.not_eq_true _ ▸ null
      obtain ⟨between, n, first⟩ := consistent.amend_ok _ (settle t clock) (fun _ => rfl) life
        fun _ _ => faultless
      suffices later : between.applyTransitions rest clock = .error e by
        obtain ⟨isNull, t', member, found⟩ := ih (tracked.amend first (fun _ => rfl) life)
          (consistent.amend first (fun _ => rfl) fun _ => stored_map_stored _)
          (fun other member => attempted other (List.mem_cons_of_mem _ member)) later
        exact ⟨isNull, t', List.mem_cons_of_mem _ member, found⟩
      rcases others : between.applyTransitions rest clock with e' | ⟨ids, last⟩
      · simpa only [OutboxRows.applyTransitions, applyTransition, if_neg null, first, others, bind,
          Except.bind, pure, Except.pure] using refused
      · have all := applyTransitions_cons_eq_ok_iff.mpr
          ⟨between, n, ids, faultless, first, others, rfl⟩
        rw [all] at refused
        cases refused

theorem Tracked.requeueFailed_ok (tracked : rows.Tracked serial copies)
    (consistent : rows.Consistent) (ids : List Uuid) {due : Instant}
    (storable : due.isStorable = true) (clock : Instant) :
    ∃ count rows', rows.requeueFailed ids due clock = .ok (count, rows') := by
  obtain ⟨rows', count, amended⟩ := consistent.amend_ok
    (fun row => ids.contains row.id && row.status = .failed) (renew due clock) (fun _ => rfl)
    (fun row member selected => tracked.life_renew consistent member selected due clock)
    fun _ _ => (by decide : hasNull "" = false)
  exact ⟨count, rows', requeueFailed_eq_ok_iff.mpr ⟨fun _ => storable, amended⟩⟩

theorem Tracked.emitted (tracked : rows.Tracked serial copies)
    (emitted : Emitted rows serial rows' serial') (room : serial' ≤ 2 ^ 128) :
    rows'.Tracked serial' copies := by
  induction emitted with
  | quiet bound => exact tracked.later bound
  | @put between number last serial' settings event now before inserted readable bound ih =>
    have tracked' := ih (by omega)
    obtain ⟨accepted, _, _, rfl⟩ := insert_eq_ok_iff.mp inserted
    have positive := (OutboxEntry.isLawful_iff.mp
      (OutboxEntry.fault?_eq_none_iff.mp accepted).2.2.2).2.1
    refine ⟨?_, ?_, ?_, tracked'.claimed⟩
    · rintro e (member | held)
      · rcases List.mem_append.mp member with old | new
        · exact tracked'.lifecycle e (.inl old)
        · rw [List.mem_singleton.mp new]
          exact settings.newEntry_inLifecycle _ event now positive
      · exact tracked'.lifecycle e (.inr held)
    · rintro e (member | held)
      · rcases List.mem_append.mp member with old | new
        · exact (tracked'.later (by omega : number ≤ serial')).issued e (.inl old)
        · rw [List.mem_singleton.mp new]
          exact ⟨number, bound, rfl⟩
      · exact (tracked'.later (by omega : number ≤ serial')).issued e (.inr held)
    · intro copy held row member same
      rcases List.mem_append.mp member with old | new
      · exact tracked'.copied copy held row old same
      · obtain ⟨earlier, before, isEarlier⟩ := tracked'.issued copy (.inr held)
        rw [List.mem_singleton.mp new, isEarlier] at same
        exact absurd same.symm (Uuid.ofSerial_ne before (by omega))

end OutboxRows

/-- Anyone may call anything; only sweeps give entries of this table back or settle them, and they
do so from what they fetched. Their copies may be long out of date. -/
structure Transaction.Permitted (x : Transaction) (table : OutboxTable)
    (copies : List OutboxEntry) : Prop where
  released : ∀ entries, x.db.outbox.table = table → x.call = .release entries →
    ∀ entry ∈ entries, entry ∈ copies
  settled : ∀ transitions, x.db.outbox.table = table → x.call = .applyTransitions transitions →
    ∀ t ∈ transitions, ∃ entry ∈ copies, entry.Attempted t

/-- One call keeps track of the copies as long as identifiers do not run out. -/
theorem OutboxRows.Tracked.step {table : OutboxTable} {x : Transaction} {rows rows' : OutboxRows}
    {serial serial' : Nat} {copies entries : List OutboxEntry}
    (tracked : rows.Tracked serial copies) (consistent : rows.Consistent)
    (permitted : x.Permitted table copies)
    (step : Step table x rows serial entries rows' serial') (room : serial' ≤ 2 ^ 128) :
    rows'.Tracked serial' (copies ++ entries) := by
  cases step with
  | emitted emitted =>
    rw [List.append_nil]
    exact tracked.emitted emitted room
  | fetched _ _ fetched => exact tracked.fetchDue consistent fetched
  | released at_table isRelease released =>
    rw [List.append_nil]
    exact tracked.release (permitted.released _ at_table isRelease) released
  | settled at_table isApply settled =>
    rw [List.append_nil]
    exact tracked.applyTransitions (permitted.settled _ at_table isApply) settled
  | cleaned _ _ cleaned =>
    rw [List.append_nil, cleanup_eq_ok cleaned]
    exact tracked.sublist List.filter_sublist
  | @requeued ids due _ _ _ _ requeued =>
    rw [List.append_nil]
    exact tracked.amend (requeueFailed_eq_ok_iff.mp requeued).2 (fun _ => rfl)
      fun row member selected => tracked.life_renew consistent member selected due x.now

end OutboxRelay
