import OutboxRelay.Proofs.AttemptCount

namespace OutboxRelay

theorem OutboxSettings.emitAll_rows {settings : OutboxSettings} {now : Instant}
    {events : List NewOutboxEvent} {u v : UnitOfWork} {entries : List OutboxEntry}
    (run : (settings.emitAll now events).run u = (.ok entries, v)) (table : OutboxTable) :
    v.tables.outbox table =
      u.tables.outbox table ++ if settings.table = table then entries else [] := by
  induction events generalizing u entries with
  | nil =>
    cases run
    split <;> exact (List.append_nil _).symm
  | cons event rest ih =>
    rw [emitAll, List.mapM_cons] at run
    obtain ⟨entry, between, first, others⟩ := Stateful.run_bind_eq_ok_iff.mp run
    obtain ⟨more, last, second, returned⟩ := Stateful.run_bind_eq_ok_iff.mp others
    cases returned
    rw [ih second, emit_rows first, List.append_assoc]
    split <;> rfl

namespace OutboxRows
variable {table : OutboxTable} {rows rows' : OutboxRows}

theorem Emitted.isPrefix {serial serial' : Nat} (emitted : Emitted rows serial rows' serial') :
    rows <+: rows' := by
  induction emitted with
  | quiet _ => exact List.prefix_rfl
  | put _ _ _ _ inserted _ _ ih =>
    obtain ⟨_, _, _, rfl⟩ := insert_eq_ok_iff.mp inserted
    exact ih.trans (List.prefix_append _ _)

theorem Step.emitted_of_not_reworks {x : Transaction} {entries : List OutboxEntry}
    {serial serial' : Nat} (step : Step table x rows serial entries rows' serial')
    (appends : x.call.reworks = false) : Emitted rows serial rows' serial' := by
  cases step with
  | emitted emitted => exact emitted
  | fetched _ isCall _ | released _ isCall _ | settled _ isCall _ | cleaned _ isCall _
  | requeued _ isCall _ =>
    rw [isCall] at appends
    cases appends

/-- A write that keeps the fixed parts of all rows, and the settled rows altogether. -/
def Spares (rows : OutboxRows) (change : OutboxEntry → OutboxEntry) : Prop :=
  ∀ row ∈ rows, (change row).fixedPart = row.fixedPart ∧
    (row.status.isTerminal = true → change row = row)

theorem Spares.id (rows : OutboxRows) : rows.Spares fun row => row := fun _ _ => ⟨rfl, fun _ => rfl⟩

theorem Spares.comp {first second : OutboxEntry → OutboxEntry} (begun : rows.Spares first)
    (rest : Spares (rows.map first) second) : rows.Spares (second ∘ first) := by
  intro row member
  obtain ⟨fixed, settled⟩ := begun row member
  obtain ⟨fixed', settled'⟩ := rest (first row) (List.mem_map_of_mem member)
  refine ⟨fixed'.trans fixed, fun terminal => ?_⟩
  have kept := settled terminal
  exact (settled' (by rwa [kept])).trans kept

/-- A guarded write reaches pending rows only. -/
theorem spares_untouched (rows : OutboxRows) (id : Uuid) (attempts : Int)
    {change : OutboxEntry → OutboxEntry} (fixed : ∀ row, (change row).fixedPart = row.fixedPart) :
    rows.Spares fun row => if isUntouched id attempts row then change row else row := by
  intro row _
  dsimp only
  split
  · rename_i untouched
    refine ⟨fixed row, fun terminal => ?_⟩
    rw [(isUntouched_iff.mp untouched).2.1] at terminal
    cases terminal
  · exact ⟨rfl, fun _ => rfl⟩

theorem release_spares {entries : List OutboxEntry} {clock : Instant} {count : Nat}
    (released : rows.release entries clock = .ok (count, rows')) :
    ∃ change, rows' = rows.map change ∧ rows.Spares change := by
  refine release_preserves (P := fun rows' => ∃ change, rows' = rows.map change ∧ rows.Spares change)
    released ?_ ⟨_, (List.map_id'' (fun _ => rfl) _).symm, .id rows⟩
  rintro entry _ _ after n ⟨change, rfl, spares⟩ amended
  obtain ⟨_, rfl, _⟩ := amend_eq_ok_iff.mp amended
  exact ⟨_, List.map_map, spares.comp (spares_untouched _ _ _ fun _ => rfl)⟩

theorem applyTransitions_spares {transitions : List EntryTransition} {clock : Instant}
    {ids : List Uuid} (settled : rows.applyTransitions transitions clock = .ok (ids, rows')) :
    ∃ change, rows' = rows.map change ∧ rows.Spares change := by
  refine applyTransitions_preserves
    (P := fun rows' => ∃ change, rows' = rows.map change ∧ rows.Spares change)
    settled ?_ ⟨_, (List.map_id'' (fun _ => rfl) _).symm, .id rows⟩
  rintro t _ _ after n ⟨change, rfl, spares⟩ amended
  obtain ⟨_, rfl, _⟩ := amend_eq_ok_iff.mp amended
  exact ⟨_, List.map_map, spares.comp (spares_untouched _ _ _ fun _ => rfl)⟩

theorem Consistent.fetchDue_spares {time clock : Instant} {limit : Int} {lease : Period}
    {entries : List OutboxEntry} (consistent : rows.Consistent)
    (fetched : rows.fetchDue time limit lease clock = .ok (entries, rows')) :
    ∃ change, rows' = rows.map change ∧ rows.Spares change := by
  obtain ⟨claimEnd, _, _, _, rfl⟩ := fetchDue_eq_ok_iff.mp fetched
  refine ⟨_, rfl, fun row member => ?_⟩
  split
  · rename_i taken
    refine ⟨rfl, fun terminal => ?_⟩
    have due := (due_of_fetched fetched ((consistent.mem_fetched fetched member).mp taken)).2
    rw [OutboxEntry.pending_of_isDue due] at terminal
    cases terminal
  · exact ⟨rfl, fun _ => rfl⟩

end OutboxRows

/-- Whether a row with the identifier of `row` is left is a matter of `row` alone. -/
theorem OutboxRows.Consistent.any_filter {rows : OutboxRows} {row : OutboxEntry}
    (consistent : rows.Consistent) (member : row ∈ rows) (keep : OutboxEntry → Bool) :
    (rows.filter keep).any (·.id = row.id) = keep row := by
  rw [Bool.eq_iff_iff, List.any_eq_true]
  constructor
  · rintro ⟨other, left, same⟩
    obtain ⟨there, kept⟩ := List.mem_filter.mp left
    rwa [consistent.eq_of_id there member (of_decide_eq_true same)] at kept
  · exact fun kept => ⟨row, List.mem_filter.mpr ⟨member, kept⟩, decide_eq_true rfl⟩

/-- A call that makes a failed entry pending again. -/
def OutboxEntry.Requeued (row : OutboxEntry) (table : OutboxTable) (x : Transaction) : Prop :=
  row.status = .failed ∧ x.db.outbox.table = table ∧
    ∃ ids due, x.call = .requeueFailed ids due ∧ row.id ∈ ids

/-- A call that may delete a settled entry for its age. -/
def OutboxEntry.Expired (row : OutboxEntry) (table : OutboxTable) (x : Transaction) : Prop :=
  row.status.isTerminal = true ∧ x.db.outbox.table = table ∧
    ∃ cutoff limit, x.call = .cleanup cutoff limit ∧ row.createdAt.lt cutoff.stored = true

/-- The entries that a call shows to have put into an outbox table. -/
def Transaction.shown (x : Transaction) (table : OutboxTable) :
    Except Error Reply → List OutboxEntry
  | .ok (.entry entry) => if x.db.outbox.table = table then [entry] else []
  | .ok (.entries entries) => if x.db.outbox.table = table then entries else []
  | _ => []

namespace Store

/-- The entries that a call emits into an outbox table: those that its reply shows. Calls on uploads
show none; what they emit stands after the rows that were there. -/
def emissions (s : Store) (table : OutboxTable) (x : Transaction) : List OutboxEntry :=
  match x.call with
  | .emit _ => x.shown table (s.perform x).1
  | .emitAll _ => x.shown table (s.perform x).1
  | call =>
    if call.reworks then [] else ((s.perform x).2.rows table).drop (s.rows table).length

/-- Whether a call is a cleanup that leaves no row with the identifier of `row`. -/
def deletes (s : Store) (table : OutboxTable) (x : Transaction) (row : OutboxEntry) : Bool :=
  match x.call with
  | .cleanup _ _ => !((s.perform x).2.rows table).any (·.id = row.id)
  | _ => false

/-- All that a run emits. -/
def emitted (s : Store) (table : OutboxTable) : List Transaction → List OutboxEntry
  | [] => []
  | x :: rest => s.emissions table x ++ (s.perform x).2.emitted table rest

/-- The rows that the cleanups of a run delete, as they are then. -/
def deleted (s : Store) (table : OutboxTable) : List Transaction → List OutboxEntry
  | [] => []
  | x :: rest => (s.rows table).filter (s.deletes table x) ++ (s.perform x).2.deleted table rest

/-- What a call does to an outbox table, when `change` is what becomes of the rows that it does not
delete. -/
structure Course (s : Store) (table : OutboxTable) (x : Transaction)
    (change : OutboxEntry → OutboxEntry) : Prop where
  rows : (s.perform x).2.rows table =
    ((s.rows table).filter fun row => !s.deletes table x row).map change ++ s.emissions table x
  fixed : ∀ row ∈ s.rows table, (change row).fixedPart = row.fixedPart
  settled : ∀ row ∈ s.rows table, row.status.isTerminal = true →
    change row = row ∨ row.Requeued table x
  expired : ∀ row ∈ s.rows table, s.deletes table x row = true → row.Expired table x

variable {table : OutboxTable} {s : Store} {x : Transaction}

/-- A call that deletes nothing and emits `new`. -/
theorem course_of_map {change : OutboxEntry → OutboxEntry} {new : List OutboxEntry}
    (keeps : ∀ row ∈ s.rows table, s.deletes table x row = false)
    (emits : s.emissions table x = new)
    (rows : (s.perform x).2.rows table = (s.rows table).map change ++ new)
    (fixed : ∀ row ∈ s.rows table, (change row).fixedPart = row.fixedPart)
    (settled : ∀ row ∈ s.rows table, row.status.isTerminal = true →
      change row = row ∨ row.Requeued table x) : s.Course table x change where
  rows := by
    have all : ((s.rows table).filter fun row => !s.deletes table x row) = s.rows table :=
      List.filter_eq_self.mpr fun row member => by rw [keeps row member]; rfl
    rw [all, emits, rows]
  fixed := fixed
  settled := settled
  expired row member gone := absurd gone (by rw [keeps row member]; exact nofun)

theorem course_of_spares {change : OutboxEntry → OutboxEntry} {new : List OutboxEntry}
    (keeps : ∀ row ∈ s.rows table, s.deletes table x row = false)
    (emits : s.emissions table x = new)
    (rows : (s.perform x).2.rows table = (s.rows table).map change ++ new)
    (spares : (s.rows table).Spares change) : s.Course table x change :=
  course_of_map keeps emits rows (fun row member => (spares row member).1)
    fun row member terminal => .inl ((spares row member).2 terminal)

theorem course_of_appended {new : List OutboxEntry}
    (keeps : ∀ row ∈ s.rows table, s.deletes table x row = false) (emits : s.emissions table x = new)
    (rows : (s.perform x).2.rows table = s.rows table ++ new) :
    s.Course table x fun row => row :=
  course_of_spares keeps emits (by rw [List.map_id'' fun _ => rfl]; exact rows) (.id _)

/-- A write to an outbox table that spares what is settled, whether it succeeds or not. -/
theorem course_of_write {α : Type} {operation : OutboxRows → Except Error (α × OutboxRows)}
    {g : α → Reply}
    (performed : s.perform x = s.atomic (g <$> Work.onOutbox x.db.outbox.table operation))
    (keeps : ∀ row ∈ s.rows table, s.deletes table x row = false) (silent : s.emissions table x = [])
    (spares : ∀ a rows', operation (s.rows table) = .ok (a, rows') →
      ∃ change, rows' = (s.rows table).map change ∧ (s.rows table).Spares change) :
    ∃ change, s.Course table x change := by
  rcases s.perform_write_cases performed table with ⟨kept, _⟩ | ⟨a, rows', _, done, left, _⟩
  · exact ⟨_, course_of_appended keeps silent (kept.trans (List.append_nil _).symm)⟩
  · obtain ⟨change, rfl, spared⟩ := spares a rows' done
    exact ⟨change, course_of_spares keeps silent (left.trans (List.append_nil _).symm) spared⟩

theorem course_of_emit {db : Database} {now : Instant} {event : NewOutboxEvent} :
    s.Course table ⟨db, now, .emit event⟩ fun row => row := by
  refine course_of_appended (fun _ _ => rfl) rfl ?_
  change _ = s.rows table ++ Transaction.shown _ table _
  rcases s.perform_cases ⟨db, now, .emit event⟩ with ⟨e, reply, kept, _⟩ | ⟨reply, u, run, performed, _⟩
  · rw [reply, rows, kept]
    exact (List.append_nil _).symm
  · obtain ⟨entry, emitted, rfl⟩ := Stateful.run_map_eq_ok run
    rw [performed]
    exact OutboxSettings.emit_rows emitted table

theorem course_of_emitAll {db : Database} {now : Instant} {events : List NewOutboxEvent} :
    s.Course table ⟨db, now, .emitAll events⟩ fun row => row := by
  refine course_of_appended (fun _ _ => rfl) rfl ?_
  change _ = s.rows table ++ Transaction.shown _ table _
  rcases s.perform_cases ⟨db, now, .emitAll events⟩ with
    ⟨e, reply, kept, _⟩ | ⟨reply, u, run, performed, _⟩
  · rw [reply, rows, kept]
    exact (List.append_nil _).symm
  · obtain ⟨entries, emitted, rfl⟩ := Stateful.run_map_eq_ok run
    rw [performed]
    exact OutboxSettings.emitAll_rows emitted table

/-- Calls on uploads only append. -/
theorem course_of_upload (appends : x.call.reworks = false)
    (keeps : ∀ row ∈ s.rows table, s.deletes table x row = false)
    (emits : s.emissions table x = ((s.perform x).2.rows table).drop (s.rows table).length) :
    s.Course table x fun row => row :=
  course_of_appended keeps emits
    (List.prefix_iff_eq_append.mp
      ((s.perform_step x table).emitted_of_not_reworks appends).isPrefix).symm

theorem course_of_cleanup {db : Database} {now cutoff : Instant} {limit : Int}
    (consistent : (s.rows table).Consistent) :
    s.Course table ⟨db, now, .cleanup cutoff limit⟩ fun row => row := by
  have deletes : ∀ row, s.deletes table ⟨db, now, .cleanup cutoff limit⟩ row =
      !((s.perform ⟨db, now, .cleanup cutoff limit⟩).2.rows table).any (·.id = row.id) :=
    fun _ => rfl
  rcases s.perform_write_cases (s.perform_cleanup db now cutoff limit) table with
    ⟨kept, _⟩ | ⟨stats, rows', target, done, left, _⟩
  · refine course_of_appended (fun row member => ?_) rfl (kept.trans (List.append_nil _).symm)
    rw [deletes, kept, Bool.not_eq_false', List.any_eq_true]
    exact ⟨row, member, decide_eq_true rfl⟩
  · have gone : ∀ row ∈ s.rows table, s.deletes table ⟨db, now, .cleanup cutoff limit⟩ row =
        ((s.rows table).expired cutoff |>.take limit.toNat).any (·.id = row.id) := by
      intro row member
      rw [deletes, left, OutboxRows.cleanup_eq_ok done, consistent.any_filter member, Bool.not_not]
    refine ⟨?_, fun _ _ => rfl, fun _ _ _ => .inl rfl, fun row member deleted => ?_⟩
    · rw [left, OutboxRows.cleanup_eq_ok done, List.map_id'' fun _ => rfl]
      refine (List.append_nil _).symm.trans (congrArg (· ++ []) (List.filter_congr fun row member => ?_))
      rw [gone row member]
    · rw [gone row member, List.any_eq_true] at deleted
      obtain ⟨old, taken, same⟩ := deleted
      obtain ⟨there, terminal, early⟩ := OutboxRows.mem_expired.mp (List.mem_of_mem_take taken)
      cases consistent.eq_of_id there member (of_decide_eq_true same)
      exact ⟨terminal, target, cutoff, limit, rfl, early⟩

theorem course_of_requeueFailed {db : Database} {now due : Instant} {ids : List Uuid} :
    ∃ change, s.Course table ⟨db, now, .requeueFailed ids due⟩ change := by
  rcases s.perform_write_cases (s.perform_requeueFailed db now ids due) table with
    ⟨kept, _⟩ | ⟨count, rows', target, done, left, _⟩
  · exact ⟨_, course_of_appended (fun _ _ => rfl) rfl (kept.trans (List.append_nil _).symm)⟩
  · obtain ⟨_, rfl, _⟩ := OutboxRows.amend_eq_ok_iff.mp (OutboxRows.requeueFailed_eq_ok_iff.mp done).2
    refine ⟨_, course_of_map (fun _ _ => rfl) rfl (left.trans (List.append_nil _).symm)
      (fun row _ => ?_) fun row _ _ => ?_⟩
    · split <;> rfl
    · split
      · rename_i selected
        rw [Bool.and_eq_true, List.contains_eq_mem, decide_eq_true_eq, decide_eq_true_eq] at selected
        exact .inr ⟨selected.2, target, ids, due, rfl, selected.1⟩
      · exact .inl rfl

/-- What a call does to an outbox table. -/
theorem perform_course (s : Store) (x : Transaction) (consistent : (s.rows table).Consistent) :
    ∃ change, s.Course table x change := by
  obtain ⟨db, now, call⟩ := x
  cases call with
  | emit event => exact ⟨_, course_of_emit⟩
  | emitAll events => exact ⟨_, course_of_emitAll⟩
  | fetchDue time limit lease =>
    exact course_of_write (s.perform_fetchDue db now time limit lease) (fun _ _ => rfl) rfl
      fun _ _ done => consistent.fetchDue_spares done
  | release entries =>
    exact course_of_write (s.perform_release db now entries) (fun _ _ => rfl) rfl fun _ _ done =>
      OutboxRows.release_spares done
  | applyTransitions transitions =>
    exact course_of_write (s.perform_applyTransitions db now transitions) (fun _ _ => rfl) rfl
      fun _ _ done => OutboxRows.applyTransitions_spares done
  | cleanup cutoff limit => exact ⟨_, course_of_cleanup consistent⟩
  | requeueFailed ids due => exact course_of_requeueFailed
  | _ => exact ⟨_, course_of_upload rfl (fun _ _ => rfl) rfl⟩

/-- What is there after a call, and what it deletes, is what was there before and what it emits. -/
theorem Course.balance {change : OutboxEntry → OutboxEntry} (course : s.Course table x change) :
    (((s.perform x).2.rows table ++ (s.rows table).filter (s.deletes table x)).map
        OutboxEntry.fixedPart).Perm
      ((s.rows table ++ s.emissions table x).map OutboxEntry.fixedPart) := by
  have kept : (((s.rows table).filter fun row => !s.deletes table x row).map change).map
      OutboxEntry.fixedPart =
        ((s.rows table).filter fun row => !s.deletes table x row).map OutboxEntry.fixedPart := by
    rw [List.map_map]
    exact List.map_congr_left fun row member => course.fixed row (List.mem_of_mem_filter member)
  rw [course.rows, List.map_append, List.map_append, kept, List.map_append, ← List.map_append,
    ← List.map_append, ← List.map_append]
  refine List.Perm.map _ ?_
  have parts := List.filter_append_perm (s.deletes table x) (s.rows table)
  refine (List.perm_append_comm.trans ?_).trans (parts.append_right _)
  rw [List.append_assoc]

/-- Emissions and deletions of a run add up. -/
theorem after_balance (s : Store) (run : List Transaction) (consistent : (s.rows table).Consistent) :
    (((s.after run).rows table ++ s.deleted table run).map OutboxEntry.fixedPart).Perm
      ((s.rows table ++ s.emitted table run).map OutboxEntry.fixedPart) := by
  induction run generalizing s with
  | nil => exact .refl _
  | cons x rest ih =>
    obtain ⟨change, course⟩ := s.perform_course x consistent
    have first := course.balance
    have others := ih (s.perform x).2 (consistent.step (s.perform_step x table))
    simp only [List.map_append, after_cons, deleted, emitted] at first others ⊢
    refine (List.perm_append_comm.append_left _).trans ?_
    rw [← List.append_assoc, ← List.append_assoc]
    refine (others.append_right _).trans ?_
    rw [List.append_assoc]
    refine (List.perm_append_comm.append_left _).trans ?_
    rw [← List.append_assoc]
    exact first.append_right _

theorem not_mem_of_deletes {row : OutboxEntry} (gone : s.deletes table x row = true) :
    ∀ other ∈ (s.perform x).2.rows table, other.id ≠ row.id := by
  unfold deletes at gone
  split at gone
  · rw [Bool.not_eq_true', List.any_eq_false] at gone
    exact fun other member same => gone other member (decide_eq_true same)
  · cases gone

/-- What has become of a row after a run. It is still there, as it was if it had been delivered, or
if it had failed and was not requeued; or a cleanup has deleted it when it was settled. -/
inductive Fate (s : Store) (table : OutboxTable) (row : OutboxEntry) (run : List Transaction) : Prop
  | kept (later : OutboxEntry) : later ∈ (s.after run).rows table →
      later.fixedPart = row.fixedPart → (row.status = .delivered → later = row) →
      (row.status = .failed → later = row ∨ ∃ before x rest, run = before ++ x :: rest ∧
        row ∈ (s.after before).rows table ∧ row.Requeued table x) → Fate s table row run
  | deleted (before : List Transaction) (x : Transaction) (rest : List Transaction)
      (last : OutboxEntry) : run = before ++ x :: rest → last ∈ (s.after before).rows table →
      last.fixedPart = row.fixedPart → last.Expired table x →
      (∀ other ∈ (s.after (before ++ [x])).rows table, other.id ≠ row.id) → Fate s table row run

theorem fate_of_mem (s : Store) (run : List Transaction) (consistent : (s.rows table).Consistent)
    {row : OutboxEntry} (member : row ∈ s.rows table) : s.Fate table row run := by
  induction run generalizing s row with
  | nil => exact .kept row member rfl (fun _ => rfl) fun _ => .inl rfl
  | cons x rest ih =>
    obtain ⟨change, course⟩ := s.perform_course x consistent
    cases gone : s.deletes table x row with
    | true =>
      exact .deleted [] x rest row rfl member rfl (course.expired row member gone)
        (not_mem_of_deletes gone)
    | false =>
      have carried : change row ∈ (s.perform x).2.rows table := by
        rw [course.rows]
        refine List.mem_append_left _ (List.mem_map_of_mem (List.mem_filter.mpr ⟨member, ?_⟩))
        rw [gone]
        rfl
      have fixed := course.fixed row member
      have settled := course.settled row member
      cases ih (s.perform x).2 (consistent.step (s.perform_step x table)) carried with
      | kept later there same delivered failed =>
        refine .kept later there (same.trans fixed) (fun status => ?_) fun status => ?_
        · rcases settled (by rw [status]; rfl) with still | ⟨other, _⟩
          · rw [still] at delivered
            exact delivered status
          · cases status.symm.trans other
        · rcases settled (by rw [status]; rfl) with still | requeued
          · rw [still] at failed
            refine (failed status).imp_right fun ⟨before, y, others, split, stays, requeued⟩ => ?_
            exact ⟨x :: before, y, others, congrArg (x :: ·) split, stays, requeued⟩
          · exact .inr ⟨[], x, rest, rfl, member, requeued⟩
      | deleted before y others last split there same expired absent =>
        refine .deleted (x :: before) y others last (congrArg (x :: ·) split) there
          (same.trans fixed) expired fun other left => ?_
        rw [← OutboxEntry.id_of_fixedPart fixed]
        exact absent other left

/-- No event is lost, altered or revived. The rows of an outbox table are what was emitted, less what
cleanups have deleted; and whatever calls follow, each of them stays as its fate says. -/
theorem outbox_history (table : OutboxTable) (run rest : List Transaction) :
    (((({} : Store).after run).rows table ++ ({} : Store).deleted table run).map
        OutboxEntry.fixedPart).Perm
      ((({} : Store).emitted table run).map OutboxEntry.fixedPart) ∧
      ∀ row ∈ (({} : Store).after run).rows table, (({} : Store).after run).Fate table row rest := by
  refine ⟨?_, fun row member => fate_of_mem _ rest (after_consistent run table) member⟩
  have empty : ({} : Store).rows table = [] := by cases table <;> rfl
  have balance := ({} : Store).after_balance run (after_consistent [] table)
  rwa [empty, List.nil_append] at balance

/-- The theorem about an event that is delivered and then too old. -/
theorem outbox_history_cleaned :
    let time : Instant := ⟨1767225600, 0⟩
    let call : Call → Transaction := fun call => ⟨{}, time, call⟩
    let run := [call (.emit ⟨"file", "1", "file.stored", none, none⟩),
      call (.fetchDue time 10 (Period.ofSeconds 300)),
      call (.applyTransitions [⟨Uuid.ofSerial 0, 0, 1, .delivered, none, some time, ""⟩])]
    let rest := [call (.requeueFailed [Uuid.ofSerial 0] time), call (.cleanup ⟨1767225601, 0⟩ 10)]
    ∃ row ∈ (({} : Store).after run).rows .core, row.status = .delivered ∧
      (({} : Store).after run).Fate .core row rest ∧
      (({} : Store).after (run ++ rest)).rows .core = [] ∧
      ((({} : Store).deleted .core (run ++ rest)).map OutboxEntry.fixedPart).Perm
        ((({} : Store).emitted .core (run ++ rest)).map OutboxEntry.fixedPart) := by
  intro time call run rest
  obtain ⟨row, member, status⟩ :
      ∃ row ∈ (({} : Store).after run).rows .core, row.status = .delivered := by decide +kernel
  have gone : (({} : Store).after (run ++ rest)).rows .core = [] :=
    List.isEmpty_iff.mp (by decide +kernel)
  have balance := (outbox_history .core (run ++ rest) []).1
  rw [gone, List.nil_append] at balance
  exact ⟨row, member, status, (outbox_history .core run rest).2 row member, gone, balance⟩

end Store

end OutboxRelay
