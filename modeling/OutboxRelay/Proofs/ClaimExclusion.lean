import OutboxRelay.Proofs.TableConsistency

namespace OutboxRelay

namespace OutboxRows

/-- The row is pending and hidden up to a time. -/
def Hidden (rows : OutboxRows) (id : Uuid) (reopens : Instant) : Prop :=
  ∃ row ∈ rows, row.id = id ∧ row.status = .pending ∧
    ∃ next, row.nextAttemptAt = some next ∧ reopens.le next = true

/-- A release or a settled attempt in the call reaches the row. -/
def Lands (rows : OutboxRows) (id : Uuid) (x : Transaction) : Prop :=
  ∃ row ∈ rows, row.id = id ∧
    ((∃ entries result, x.call = .release entries ∧ rows.release entries x.now = .ok result ∧
        ∃ entry ∈ entries, isUntouched entry.id entry.attempts row = true) ∨
      ∃ transitions result, x.call = .applyTransitions transitions ∧
        rows.applyTransitions transitions x.now = .ok result ∧
        ∃ t ∈ transitions, isUntouched t.id t.previousAttempts row = true)

/-- The call fetches the row and hides it for less than up to a time. Only a negative lease does
that, or a clock in a leap second. -/
def CutShort (rows : OutboxRows) (id : Uuid) (reopens : Instant) (x : Transaction) : Prop :=
  ∃ time limit lease entries rows' claimEnd, x.call = .fetchDue time limit lease ∧
    rows.fetchDue time limit lease x.now = .ok (entries, rows') ∧ (∃ e ∈ entries, e.id = id) ∧
    time.add? lease = some claimEnd ∧ claimEnd.stored.lt reopens = true ∧
    (lease.nanos < 0 ∨ nanosPerSecond ≤ time.nanos)

variable {table : OutboxTable} {rows rows' : OutboxRows} {id : Uuid} {reopens : Instant}

theorem Emitted.subset {serial serial' : Nat} (emitted : Emitted rows serial rows' serial') :
    rows ⊆ rows' := by
  induction emitted with
  | quiet _ => exact List.Subset.refl rows
  | put _ _ _ _ inserted _ _ ih =>
    obtain ⟨_, _, _, rfl⟩ := insert_eq_ok_iff.mp inserted
    exact List.Subset.trans ih (List.subset_append_left _ _)

/-- A guarded write misses the rows that its guard does not pick. -/
theorem mem_of_amend {selects : OutboxEntry → Bool} {change : OutboxEntry → OutboxEntry}
    {count : Nat} {row : OutboxEntry} (amended : rows.amend selects change = .ok (rows', count))
    (member : row ∈ rows) (missed : ¬ selects row = true) : row ∈ rows' := by
  obtain ⟨_, rfl, _⟩ := amend_eq_ok_iff.mp amended
  exact List.mem_map.mpr ⟨row, member, if_neg missed⟩

theorem next_le_of_isDue {row : OutboxEntry} {now next : Instant} (due : row.isDue now = true)
    (scheduled : row.nextAttemptAt = some next) : next.le now = true := by
  simp only [OutboxEntry.isDue, scheduled, Option.any_some, Bool.and_eq_true] at due
  exact due.2

theorem Hidden.fetchDue {time clock : Instant} {limit : Int} {lease : Period}
    {entries : List OutboxEntry} (hidden : rows.Hidden id reopens) (consistent : rows.Consistent)
    (fetched : rows.fetchDue time limit lease clock = .ok (entries, rows')) :
    rows'.Hidden id reopens ∨ ∃ claimEnd, (∃ e ∈ entries, e.id = id) ∧
      time.add? lease = some claimEnd ∧ claimEnd.stored.lt reopens = true ∧
      (lease.nanos < 0 ∨ nanosPerSecond ≤ time.nanos) := by
  obtain ⟨row, member, rfl, pending, next, scheduled, bound⟩ := hidden
  have taken := consistent.mem_fetched fetched member
  have due := fun claimed : row ∈ entries => (due_of_fetched fetched claimed).2
  obtain ⟨claimEnd, ends, _, _, rfl⟩ := fetchDue_eq_ok_iff.mp fetched
  by_cases claimed : row ∈ entries
  · by_cases short : claimEnd.stored.lt reopens = true
    · refine .inr ⟨claimEnd, ⟨row, claimed, rfl⟩, ends, short, ?_⟩
      refine Classical.byContradiction fun other => ?_
      rw [not_or, Int.not_lt, Nat.not_le] at other
      -- the row was due, so what hid it ended before this claim began
      have late := Instant.stored_le_of_add? other.2 other.1 ends
      have begun := next_le_of_isDue (due claimed) scheduled
      exact Instant.lt_iff.mp short (Instant.le_trans bound (Instant.le_trans begun late))
    · refine .inl ⟨claim claimEnd clock row, List.mem_map.mpr ⟨row, member, if_pos (taken.mpr claimed)⟩,
        rfl, pending, claimEnd.stored, rfl, ?_⟩
      rw [Instant.lt_iff] at short
      exact Classical.not_not.mp short
  · exact .inl ⟨row, List.mem_map.mpr ⟨row, member, if_neg (mt taken.mp claimed)⟩, rfl, pending,
      next, scheduled, bound⟩

/-- No cleanup deletes a pending row. -/
theorem mem_of_cleanup {cutoff : Instant} {limit : Int} {stats : CleanupStats} {row : OutboxEntry}
    (consistent : rows.Consistent) (cleaned : rows.cleanup cutoff limit = .ok (stats, rows'))
    (member : row ∈ rows) (pending : row.status = .pending) : row ∈ rows' := by
  rw [cleanup_eq_ok cleaned, List.mem_filter]
  refine ⟨member, ?_⟩
  simp only [Bool.not_eq_true', List.any_eq_false, decide_eq_true_eq]
  intro deleted among same
  obtain ⟨inRows, terminal, _⟩ := mem_expired.mp (List.mem_of_mem_take among)
  rw [consistent.eq_of_id inRows member same, pending] at terminal
  cases terminal

/-- A row stays hidden through every call but a release of it, a settled attempt at it, and a
fetch that claims it for less. -/
theorem Hidden.step {x : Transaction} {entries : List OutboxEntry} {serial serial' : Nat}
    (hidden : rows.Hidden id reopens) (consistent : rows.Consistent)
    (step : Step table x rows serial entries rows' serial') :
    rows'.Hidden id reopens ∨
      x.db.outbox.table = table ∧ (rows.Lands id x ∨ rows.CutShort id reopens x) := by
  have ⟨row, member, same, pending, next, scheduled, bound⟩ := hidden
  cases step with
  | emitted emitted =>
    exact .inl ⟨row, emitted.subset member, same, pending, next, scheduled, bound⟩
  | fetched target isFetch fetched =>
    rcases hidden.fetchDue consistent fetched with kept | ⟨claimEnd, taken⟩
    · exact .inl kept
    · exact .inr ⟨target, .inr ⟨_, _, _, _, _, claimEnd, isFetch, fetched, taken⟩⟩
  | @released entries count rows' target isRelease released =>
    by_cases reached : ∃ entry ∈ entries, isUntouched entry.id entry.attempts row = true
    · exact .inr ⟨target, .inl ⟨row, member, same, .inl ⟨_, _, isRelease, released, reached⟩⟩⟩
    · have kept := release_preserves (P := fun rows => row ∈ rows) released
        (fun entry taken _ _ _ before amended => mem_of_amend amended before fun untouched =>
          reached ⟨entry, taken, untouched⟩) member
      exact .inl ⟨row, kept, same, pending, next, scheduled, bound⟩
  | @settled transitions ids rows' target isApply settled =>
    by_cases reached : ∃ t ∈ transitions, isUntouched t.id t.previousAttempts row = true
    · exact .inr ⟨target, .inl ⟨row, member, same, .inr ⟨_, _, isApply, settled, reached⟩⟩⟩
    · have kept := applyTransitions_preserves (P := fun rows => row ∈ rows) settled
        (fun t taken _ _ _ before amended => mem_of_amend amended before fun untouched =>
          reached ⟨t, taken, untouched⟩) member
      exact .inl ⟨row, kept, same, pending, next, scheduled, bound⟩
  | cleaned _ _ cleaned =>
    exact .inl ⟨row, mem_of_cleanup consistent cleaned member pending, same, pending, next,
      scheduled, bound⟩
  | requeued _ _ requeued =>
    have kept := mem_of_amend (requeueFailed_eq_ok_iff.mp requeued).2 member (by
      simp only [pending, reduceCtorEq, decide_false, Bool.and_false, Bool.false_eq_true,
        not_false_eq_true])
    exact .inl ⟨row, kept, same, pending, next, scheduled, bound⟩

/-- Only a fetch has entries to show. -/
theorem Step.fetched_of_mem {x : Transaction} {entries : List OutboxEntry} {serial serial' : Nat}
    {entry : OutboxEntry} (step : Step table x rows serial entries rows' serial')
    (member : entry ∈ entries) :
    ∃ time limit lease, x.db.outbox.table = table ∧ x.call = .fetchDue time limit lease ∧
      rows.fetchDue time limit lease x.now = .ok (entries, rows') := by
  cases step with
  | fetched target isFetch fetched => exact ⟨_, _, _, target, isFetch, fetched⟩
  | _ => exact absurd member List.not_mem_nil

/-- What a fetch returns it hides up to the end of the claim. -/
theorem hidden_of_fetched {time clock claimEnd : Instant} {limit : Int} {lease : Period}
    {entries : List OutboxEntry} {entry : OutboxEntry}
    (fetched : rows.fetchDue time limit lease clock = .ok (entries, rows'))
    (ends : time.add? lease = some claimEnd) (member : entry ∈ entries) :
    rows'.Hidden entry.id claimEnd.stored := by
  obtain ⟨inRows, due⟩ := due_of_fetched fetched member
  obtain ⟨claimEnd', ends', _, _, rfl⟩ := fetchDue_eq_ok_iff.mp fetched
  cases ends.symm.trans ends'
  have pending := OutboxEntry.pending_of_isDue due
  have taken : entries.any (·.id = entry.id) = true :=
    List.any_eq_true.mpr ⟨entry, member, decide_eq_true rfl⟩
  exact ⟨claim claimEnd clock entry, List.mem_map.mpr ⟨entry, inRows, if_pos taken⟩, rfl,
    pending, claimEnd.stored, rfl, Instant.le_refl _⟩

/-- No fetch by an earlier clock returns a hidden row. -/
theorem Hidden.not_fetched {time clock : Instant} {limit : Int} {lease : Period}
    {entries : List OutboxEntry} {entry : OutboxEntry} (hidden : rows.Hidden id reopens)
    (consistent : rows.Consistent)
    (fetched : rows.fetchDue time limit lease clock = .ok (entries, rows'))
    (member : entry ∈ entries) (same : entry.id = id) : ¬ time.stored.lt reopens = true := by
  obtain ⟨row, inRows, isId, _, next, scheduled, bound⟩ := hidden
  obtain ⟨inRows', due⟩ := due_of_fetched fetched member
  rw [consistent.eq_of_id inRows' inRows (same.trans isId.symm)] at due
  intro early
  exact Instant.lt_iff.mp early (Instant.le_trans bound (next_le_of_isDue due scheduled))

end OutboxRows

namespace Store
variable {table : OutboxTable}

/-- A row that a run of calls reopens was reached by one of them. -/
theorem after_hidden (s : Store) (run : List Transaction) {id : Uuid} {reopens : Instant}
    (consistent : (s.rows table).Consistent) (hidden : (s.rows table).Hidden id reopens) :
    ((s.after run).rows table).Hidden id reopens ∨ ∃ before x rest, run = before ++ x :: rest ∧
      x.db.outbox.table = table ∧ (((s.after before).rows table).Lands id x ∨
        ((s.after before).rows table).CutShort id reopens x) := by
  induction run generalizing s with
  | nil => exact .inl hidden
  | cons x rest ih =>
    have step := s.perform_step x table
    rcases hidden.step consistent step with kept | ⟨target, reached⟩
    · rcases ih (s.perform x).2 (consistent.step step) kept with kept | ⟨before, y, rest', rfl, reached⟩
      · exact .inl kept
      · exact .inr ⟨x :: before, y, rest', rfl, reached⟩
    · exact .inr ⟨[], x, rest, rfl, target, reached⟩

/-- An entry that a fetch returned is not returned by a later fetch whose clock is before the end of
the claim, unless a release of it or a settled attempt at it landed in between, or another fetch
claimed it for less, which takes a negative lease or a clock in a leap second. -/
theorem claim_exclusive (earlier between : List Transaction) {first later : Transaction}
    {time time' claimEnd : Instant} {limit limit' : Int} {lease lease' : Period}
    {entry again : OutboxEntry} (isFetch : first.call = .fetchDue time limit lease)
    (ends : time.add? lease = some claimEnd)
    (fetched : entry ∈ first.fetched table ((({} : Store).after earlier).perform first).1)
    (isFetch' : later.call = .fetchDue time' limit' lease')
    (early : time'.stored.lt claimEnd.stored = true)
    (fetched' : again ∈ later.fetched table
      ((({} : Store).after (earlier ++ first :: between)).perform later).1)
    (same : again.id = entry.id) :
    ∃ before x rest, between = before ++ x :: rest ∧ x.db.outbox.table = table ∧
      (((({} : Store).after (earlier ++ first :: before)).rows table).Lands entry.id x ∨
        ((({} : Store).after (earlier ++ first :: before)).rows table).CutShort entry.id
          claimEnd.stored x) := by
  have consistent := fun run => after_consistent run table
  obtain ⟨_, _, _, _, isFirst, claimed⟩ := (perform_step _ first table).fetched_of_mem fetched
  cases isFetch.symm.trans isFirst
  obtain ⟨_, _, _, _, isLater, returned⟩ := (perform_step _ later table).fetched_of_mem fetched'
  cases isFetch'.symm.trans isLater
  have hidden := OutboxRows.hidden_of_fetched claimed ends fetched
  have split : ∀ run, ({} : Store).after (earlier ++ first :: run) =
      ((({} : Store).after earlier).perform first).2.after run := fun run => by
    rw [after_append, after_cons]
  have begun := consistent (earlier ++ [first])
  rw [split, after_nil] at begun
  rcases after_hidden _ between begun hidden with kept | ⟨before, x, rest, parts, target, reached⟩
  · rw [← split] at kept
    exact absurd early (kept.not_fetched (consistent _) returned fetched' same)
  · rw [← split] at reached
    exact ⟨before, x, rest, parts, target, reached⟩

/-- The theorem about an entry that is given back half a minute into a claim of five minutes. -/
theorem claim_exclusive_released :
    let event : NewOutboxEvent := ⟨"file", "1", "file.stored", none, none⟩
    let emit : Transaction := ⟨{}, ⟨1767225600, 0⟩, .emit event⟩
    let fetch : Int → Transaction := fun secs =>
      ⟨{}, ⟨secs, 0⟩, .fetchDue ⟨secs, 0⟩ 20 (Period.ofSeconds 300)⟩
    let release : Transaction := ⟨{}, ⟨1767225630, 0⟩, .release
      [({} : OutboxSettings).newEntry (Uuid.ofSerial 0) event ⟨1767225600, 0⟩]⟩
    ((fetch 1767225660).fetched .core
        ((({} : Store).after [emit, fetch 1767225600, release]).perform (fetch 1767225660)).1).map
          (·.id) = [Uuid.ofSerial 0] ∧
      ∃ before x rest, [release] = before ++ x :: rest ∧ x.db.outbox.table = .core ∧
        (((({} : Store).after ([emit] ++ fetch 1767225600 :: before)).rows .core).Lands
            (Uuid.ofSerial 0) x ∨
          ((({} : Store).after ([emit] ++ fetch 1767225600 :: before)).rows .core).CutShort
            (Uuid.ofSerial 0) (Instant.stored ⟨1767225900, 0⟩) x) := by
  intro event emit fetch release
  have first : Uuid.ofSerial 0 ∈ ((fetch 1767225600).fetched .core
      ((({} : Store).after [emit]).perform (fetch 1767225600)).1).map (·.id) := by decide +kernel
  have later : ((fetch 1767225660).fetched .core
      ((({} : Store).after [emit, fetch 1767225600, release]).perform (fetch 1767225660)).1).map
        (·.id) = [Uuid.ofSerial 0] := by decide +kernel
  obtain ⟨entry, fetched, isFirst⟩ := List.mem_map.mp first
  have back := List.mem_singleton_self (Uuid.ofSerial 0)
  rw [← later] at back
  obtain ⟨again, fetched', isLater⟩ := List.mem_map.mp back
  have reached := claim_exclusive [emit] [release] rfl
    (by decide : Instant.add? ⟨1767225600, 0⟩ (Period.ofSeconds 300) = some ⟨1767225900, 0⟩)
    fetched rfl (by decide) fetched' (isLater.trans isFirst.symm)
  rw [isFirst] at reached
  exact ⟨later, reached⟩

/-- A fetch with a negative lease makes what it returns due again in the past: then a clock that
runs behind gets the entry while the first claim still lasts. -/
theorem claim_not_exclusive :
    ¬ ∀ (table : OutboxTable) (earlier between : List Transaction) (first later : Transaction)
      (time time' claimEnd : Instant) (limit limit' : Int) (lease lease' : Period)
      (entry again : OutboxEntry), first.call = .fetchDue time limit lease →
      time.add? lease = some claimEnd →
      entry ∈ first.fetched table ((({} : Store).after earlier).perform first).1 →
      later.call = .fetchDue time' limit' lease' → time'.lt claimEnd = true →
      again ∈ later.fetched table
        ((({} : Store).after (earlier ++ first :: between)).perform later).1 →
      again.id = entry.id →
      ∃ before x rest, between = before ++ x :: rest ∧ x.db.outbox.table = table ∧
        ((({} : Store).after (earlier ++ first :: before)).rows table).Lands entry.id x := by
  intro claim
  let emit : Transaction := ⟨{}, ⟨1767225600, 0⟩, .emit ⟨"file", "1", "file.stored", none, none⟩⟩
  let fetch : Int → Int → Transaction := fun secs lease =>
    ⟨{}, ⟨secs, 0⟩, .fetchDue ⟨secs, 0⟩ 20 (Period.ofSeconds lease)⟩
  have first : Uuid.ofSerial 0 ∈ ((fetch 1767225600 300).fetched .core
      ((({} : Store).after [emit]).perform (fetch 1767225600 300)).1).map (·.id) := by
    decide +kernel
  have later : Uuid.ofSerial 0 ∈ ((fetch 1767225750 300).fetched .core
      ((({} : Store).after [emit, fetch 1767225600 300, fetch 1767225900 (-200)]).perform
        (fetch 1767225750 300)).1).map (·.id) := by decide +kernel
  obtain ⟨entry, fetched, isFirst⟩ := List.mem_map.mp first
  obtain ⟨again, fetched', isLater⟩ := List.mem_map.mp later
  obtain ⟨before, x, rest, parts, _, landed⟩ := claim .core [emit] [fetch 1767225900 (-200)] _ _
    _ _ ⟨1767225900, 0⟩ _ _ _ _ entry again rfl (by decide) fetched rfl (by decide) fetched'
    (isLater.trans isFirst.symm)
  have isReclaim : fetch 1767225900 (-200) = x := by
    cases before with
    | nil => exact (List.cons.inj parts).1
    | cons y others => cases others <;> exact absurd (List.cons.inj parts).2 nofun
  obtain ⟨_, _, _, ⟨_, _, isRelease, _⟩ | ⟨_, _, isApply, _⟩⟩ := landed
  · rw [← isReclaim] at isRelease
    cases isRelease
  · rw [← isReclaim] at isApply
    cases isApply

end Store

end OutboxRelay
