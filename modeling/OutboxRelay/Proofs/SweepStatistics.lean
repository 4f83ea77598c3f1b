import OutboxRelay.Proofs.Interference
import OutboxRelay.Proofs.Landing
import OutboxRelay.Proofs.LateRelease

namespace OutboxRelay

namespace OutboxRows
variable {rows rows' : OutboxRows} {attempted entries : List OutboxEntry} {row : OutboxEntry}
  {transitions : List EntryTransition} {t : EntryTransition} {ids : List Uuid} {clock : Instant}
  {id : Uuid}

/-- One of the entries is still there as it was fetched, and this is its row. -/
def asFetched (entries : List OutboxEntry) (row : OutboxEntry) : Bool :=
  entries.any fun entry => isUntouched entry.id entry.attempts row

theorem asFetched_iff (all : List.Forall₂ OutboxEntry.Attempted attempted transitions) :
    asFetched attempted row = true ↔
      ∃ t ∈ transitions, isUntouched t.id t.previousAttempts row = true := by
  rw [asFetched, List.any_eq_true]
  constructor
  · rintro ⟨entry, inAttempted, untouched⟩
    obtain ⟨t, inTransitions, came⟩ := exists_related_right all inAttempted
    rw [← came.id, ← came.previousAttempts] at untouched
    exact ⟨t, inTransitions, untouched⟩
  · rintro ⟨t, inTransitions, untouched⟩
    obtain ⟨entry, inAttempted, came⟩ := exists_related all inTransitions
    rw [came.id, came.previousAttempts] at untouched
    exact ⟨entry, inAttempted, untouched⟩

/-- A transition that finds its row as expected changes it, whatever the others do. -/
theorem settle_mem (settled : rows.applyTransitions transitions clock = .ok (ids, rows'))
    (distinct : transitions.Pairwise fun a b => a.id ≠ b.id) (inTransitions : t ∈ transitions)
    (member : row ∈ rows) (untouched : isUntouched t.id t.previousAttempts row = true) :
    settle t clock row ∈ rows' := by
  have isRow := (isUntouched_iff.mp untouched).1
  induction transitions generalizing rows ids with
  | nil => cases inTransitions
  | cons head rest ih =>
    obtain ⟨between, n, more, _, first, others, _⟩ := applyTransitions_cons_eq_ok_iff.mp settled
    obtain ⟨different, distinct'⟩ := List.pairwise_cons.mp distinct
    -- the writes before and after the one that matters are to other rows
    rcases List.mem_cons.mp inTransitions with rfl | later
    · refine mem_of_unsettled others ?_ fun among => ?_
      · obtain ⟨_, rfl, _⟩ := amend_eq_ok_iff.mp first
        exact List.mem_map.mpr ⟨row, member, if_pos untouched⟩
      · obtain ⟨other, inRest, same⟩ := List.mem_map.mp (ids_subset others among)
        exact different other inRest (isRow.symm.trans same.symm)
    · refine ih others distinct' later (mem_of_amend first member fun reached => ?_)
      exact different t later ((isUntouched_iff.mp reached).1.symm.trans isRow)

/-- Writing transitions neither adds nor deletes rows. -/
theorem settled_ids (settled : rows.applyTransitions transitions clock = .ok (ids, rows')) :
    rows'.map (·.id) = rows.map (·.id) :=
  applyTransitions_preserves (P := fun between => between.map (·.id) = rows.map (·.id)) settled
    (fun _ _ _ _ _ kept amended => (amend_ids amended fun _ => rfl).trans kept) rfl

theorem mem_givenBack (member : row ∈ rows) (others : ∀ entry ∈ entries, entry.id ≠ row.id) :
    row ∈ rows.givenBack entries clock := by
  unfold givenBack
  split
  · exact member
  · rename_i released
    exact mem_release released member fun entry given untouched =>
      others entry given (isUntouched_iff.mp untouched).1.symm

theorem givenBack_ids (rows : OutboxRows) (entries : List OutboxEntry) (clock : Instant) :
    (rows.givenBack entries clock).map (·.id) = rows.map (·.id) := by
  unfold givenBack
  split
  · rfl
  · rename_i released
    exact release_ids released

theorem Consistent.givenBack (consistent : rows.Consistent) (entries : List OutboxEntry)
    (clock : Instant) : (rows.givenBack entries clock).Consistent := by
  unfold OutboxRows.givenBack
  split
  · exact consistent
  · rename_i released
    exact consistent.release released

/-- What is found under an identifier is a matter of the rows that have it. -/
theorem Consistent.get?_eq (consistent : rows'.Consistent)
    (ids : rows'.map (·.id) = rows.map (·.id))
    (kept : ∀ row ∈ rows, row.id = id → row ∈ rows') : rows'.get? id = rows.get? id := by
  rcases found : rows.get? id with - | row
  · refine List.find?_eq_none.mpr fun row member isRow => ?_
    have among : row.id ∈ rows.map (·.id) := ids ▸ List.mem_map_of_mem member
    obtain ⟨old, inRows, same⟩ := List.mem_map.mp among
    exact List.find?_eq_none.mp found old inRows
      (decide_eq_true (same.trans (of_decide_eq_true isRow)))
  · have isRow : row.id = id := of_decide_eq_true
      (List.find?_some (p := fun row : OutboxEntry => row.id = id) found)
    exact get?_of_mem consistent.ids (kept row (List.mem_of_find?_eq_some found) isRow) isRow

end OutboxRows

/-- What the counters of a sweep say about what it did. It fetched `attempted` and `deferred`, and
wrote the transitions at the time `clock` to the rows `left` that others had left. The table named
`ids` as those that it found as expected, and `final` are the rows when the sweep ended. -/
structure DeliveryStats.Tally (stats : DeliveryStats) (attempted deferred : List OutboxEntry)
    (transitions : List EntryTransition) (clock : Instant) (left : OutboxRows) (ids : List Uuid)
    (final : OutboxRows) : Prop where
  fetched : stats.processed + stats.skipped + stats.deferred = (attempted ++ deferred).length
  bounded : stats.processed ≤ transitions.length
  landed : stats.processed = ids.length
  processed : stats.processed = left.countP (OutboxRows.asFetched attempted)
  delivered : stats.delivered = final.countP fun row => row.status = .delivered &&
    (left.filter (OutboxRows.asFetched attempted)).any (·.id = row.id)
  failed : stats.failed = final.countP fun row => row.status = .failed &&
    (left.filter (OutboxRows.asFetched attempted)).any (·.id = row.id)
  skipped : stats.skipped = attempted.countP fun entry =>
    !left.any (OutboxRows.isUntouched entry.id entry.attempts)
  deferred : stats.deferred = deferred.length
  remaining : stats.remaining = final.pendingCount
  written : ∀ row ∈ left, OutboxRows.asFetched attempted row = true →
    ∃ t ∈ transitions, t.id = row.id ∧
      final.get? row.id = some (OutboxRows.settle t clock row)
  passed : ∀ entry ∈ attempted,
    (∀ row ∈ left, ¬ OutboxRows.isUntouched entry.id entry.attempts row = true) →
      final.get? entry.id = left.get? entry.id

/-- A sweep writes what came of its attempts to rows that others may have changed, and gives the
other entries back. -/
structure OutboxRows.WriteBack (attempted deferred : List OutboxEntry)
    (transitions : List EntryTransition) (clock : Instant) (left : OutboxRows) (ids : List Uuid)
    (final : OutboxRows) : Prop where
  consistent : left.Consistent
  distinct : (attempted ++ deferred).Pairwise fun a b => a.id ≠ b.id
  all : List.Forall₂ OutboxEntry.Attempted attempted transitions
  written : ∃ rows, left.applyTransitions transitions clock = .ok (ids, rows) ∧
    final = rows.givenBack deferred clock

namespace OutboxRows.WriteBack
variable {attempted deferred : List OutboxEntry} {transitions : List EntryTransition}
  {clock : Instant} {left final : OutboxRows} {ids : List Uuid} {t : EntryTransition}
  {row : OutboxEntry}

theorem transitions_distinct (w : WriteBack attempted deferred transitions clock left ids final) :
    transitions.Pairwise fun a b => a.id ≠ b.id :=
  attempted_distinct w.all (List.pairwise_append.mp w.distinct).1

theorem final_consistent (w : WriteBack attempted deferred transitions clock left ids final) :
    final.Consistent := by
  obtain ⟨rows, settled, rfl⟩ := w.written
  exact (w.consistent.applyTransitions settled).givenBack deferred clock

theorem final_ids (w : WriteBack attempted deferred transitions clock left ids final) :
    final.map (·.id) = left.map (·.id) := by
  obtain ⟨rows, settled, rfl⟩ := w.written
  rw [givenBack_ids, settled_ids settled]

/-- An attempt that finds its row as it was fetched settles it. -/
theorem settle_mem (w : WriteBack attempted deferred transitions clock left ids final)
    (inTransitions : t ∈ transitions) (member : row ∈ left)
    (untouched : isUntouched t.id t.previousAttempts row = true) :
    settle t clock row ∈ final := by
  obtain ⟨rows, settled, rfl⟩ := w.written
  obtain ⟨entry, inAttempted, came⟩ := exists_related w.all inTransitions
  have isRow : row.id = entry.id := (isUntouched_iff.mp untouched).1.trans came.id
  refine mem_givenBack (OutboxRows.settle_mem settled w.transitions_distinct inTransitions member
    untouched) fun other inDeferred same => ?_
  exact (List.pairwise_append.mp w.distinct).2.2 entry inAttempted other inDeferred
    (isRow.symm.trans same.symm)

theorem mem_ids_iff (w : WriteBack attempted deferred transitions clock left ids final)
    (inTransitions : t ∈ transitions) :
    t.id ∈ ids ↔ ∃ row ∈ left, isUntouched t.id t.previousAttempts row = true := by
  obtain ⟨rows, settled, _⟩ := w.written
  exact OutboxRows.mem_ids_iff settled w.transitions_distinct inTransitions

/-- As many transitions land as rows are still there as they were fetched. -/
theorem processed (w : WriteBack attempted deferred transitions clock left ids final) :
    transitions.countP (fun t => ids.contains t.id) = left.countP (asFetched attempted) := by
  refine countP_eq_of_keys (·.id) (·.id) w.transitions_distinct w.consistent.ids fun id => ?_
  simp only [List.contains_iff_mem]
  constructor
  · rintro ⟨t, inTransitions, landed, rfl⟩
    obtain ⟨row, member, untouched⟩ := (w.mem_ids_iff inTransitions).mp landed
    exact ⟨row, member, (asFetched_iff w.all).mpr ⟨t, inTransitions, untouched⟩,
      (isUntouched_iff.mp untouched).1⟩
  · rintro ⟨row, member, current, rfl⟩
    obtain ⟨t, inTransitions, untouched⟩ := (asFetched_iff w.all).mp current
    exact ⟨t, inTransitions, (w.mem_ids_iff inTransitions).mpr ⟨row, member, untouched⟩,
      (isUntouched_iff.mp untouched).1.symm⟩

/-- As many transitions to a status land as rows that were written have it in the end. -/
theorem countP_status (w : WriteBack attempted deferred transitions clock left ids final)
    (status : OutboxStatus) :
    (transitions.filter fun t => ids.contains t.id).countP (·.status = status) =
      final.countP fun row =>
        row.status = status && (left.filter (asFetched attempted)).any (·.id = row.id) := by
  rw [List.countP_filter]
  have distinct := w.final_consistent.ids
  refine countP_eq_of_keys (·.id) (·.id) w.transitions_distinct distinct fun id => ?_
  simp only [Bool.and_eq_true, decide_eq_true_eq, List.contains_iff_mem, List.any_eq_true,
    List.mem_filter]
  constructor
  · rintro ⟨t, inTransitions, ⟨rfl, landed⟩, rfl⟩
    obtain ⟨row, member, untouched⟩ := (w.mem_ids_iff inTransitions).mp landed
    have current := (asFetched_iff w.all).mpr ⟨t, inTransitions, untouched⟩
    exact ⟨settle t clock row, w.settle_mem inTransitions member untouched,
      ⟨rfl, row, ⟨member, current⟩, rfl⟩, (isUntouched_iff.mp untouched).1⟩
  · rintro ⟨row, inFinal, ⟨rfl, old, ⟨member, current⟩, same⟩, rfl⟩
    obtain ⟨t, inTransitions, untouched⟩ := (asFetched_iff w.all).mp current
    have isOld := (isUntouched_iff.mp untouched).1
    have isRow := w.final_consistent.eq_of_id inFinal
      (w.settle_mem inTransitions member untouched) same.symm
    exact ⟨t, inTransitions, ⟨congrArg OutboxEntry.status isRow.symm,
      (w.mem_ids_iff inTransitions).mpr ⟨old, member, untouched⟩⟩, isOld.symm.trans same⟩

/-- An attempt whose row is not as it was fetched leaves that row alone, and adds none. -/
theorem passed (w : WriteBack attempted deferred transitions clock left ids final)
    {entry : OutboxEntry} (inAttempted : entry ∈ attempted)
    (missed : ∀ row ∈ left, ¬ isUntouched entry.id entry.attempts row = true) :
    final.get? entry.id = left.get? entry.id := by
  refine w.final_consistent.get?_eq w.final_ids fun row member isEntry => ?_
  obtain ⟨rows, settled, rfl⟩ := w.written
  obtain ⟨_, _, apart⟩ := List.pairwise_append.mp w.distinct
  refine mem_givenBack (mem_of_unsettled settled member fun landed => ?_) fun other inDeferred => ?_
  -- only its own transition bears the identifier of the entry, and that one missed
  · obtain ⟨t, inTransitions, same⟩ := List.mem_map.mp (ids_subset settled landed)
    obtain ⟨other, inOthers, came⟩ := exists_related w.all inTransitions
    have isOther : other = entry :=
      eq_of_distinct (List.pairwise_append.mp w.distinct).1 inOthers inAttempted
        (came.id.symm.trans (same.trans isEntry))
    subst isOther
    rw [← same] at landed
    obtain ⟨found, inLeft, untouched⟩ := (w.mem_ids_iff inTransitions).mp landed
    rw [came.id, came.previousAttempts] at untouched
    exact missed found inLeft untouched
  · rw [isEntry]
    exact (apart entry inAttempted other inDeferred).symm

/-- The other attempts are those whose rows are not there as they were fetched. -/
theorem skipped (w : WriteBack attempted deferred transitions clock left ids final) :
    transitions.countP (fun t => ids.contains t.id) +
      (attempted.countP fun entry => !left.any (isUntouched entry.id entry.attempts)) =
        attempted.length := by
  have landed : transitions.countP (fun t => ids.contains t.id) =
      attempted.countP fun entry => left.any (isUntouched entry.id entry.attempts) := by
    have named : transitions.countP (fun t => ids.contains t.id) =
        transitions.countP fun t => left.any (isUntouched t.id t.previousAttempts) := by
      refine List.countP_congr fun t inTransitions => ?_
      rw [List.contains_iff_mem, w.mem_ids_iff inTransitions, List.any_eq_true]
    rw [named]
    refine countP_of_related w.all fun entry t came => ?_
    rw [came.id, came.previousAttempts]
  rw [landed, List.length_eq_countP_add_countP fun entry : OutboxEntry =>
    left.any (isUntouched entry.id entry.attempts)]
  simp only [Bool.not_eq_true, Bool.decide_eq_false]

/-- The table names every entry whose transition landed, and none of them twice. -/
theorem ids_length (w : WriteBack attempted deferred transitions clock left ids final) :
    transitions.countP (fun t => ids.contains t.id) = ids.length := by
  obtain ⟨rows, settled, _⟩ := w.written
  have distinct : ids.Pairwise fun a b => a ≠ b := by
    rw [← landing_ids settled]
    exact List.pairwise_map.mpr (w.transitions_distinct.sublist (landing_sublist settled))
  rw [← congrFun List.countP_true ids]
  refine countP_eq_of_keys (·.id) (fun id => id) w.transitions_distinct distinct fun id => ?_
  simp only [List.contains_iff_mem, true_and, exists_eq_right]
  constructor
  · rintro ⟨t, _, landed, rfl⟩
    exact landed
  · intro landed
    obtain ⟨t, inTransitions, rfl⟩ := List.mem_map.mp (ids_subset settled landed)
    exact ⟨t, inTransitions, landed, rfl⟩

theorem tally (w : WriteBack attempted deferred transitions clock left ids final) :
    (DeliverySweep.stats transitions ids deferred.length final.pendingCount).Tally attempted
      deferred transitions clock left ids final := by
  have landed : (transitions.filter fun t => ids.contains t.id).length =
      transitions.countP fun t => ids.contains t.id := List.countP_eq_length_filter.symm
  have lengths := w.all.length_eq
  have parts := w.skipped
  refine { fetched := ?_, bounded := List.length_filter_le _ _,
           landed := landed.trans w.ids_length, processed := landed.trans w.processed,
           delivered := w.countP_status .delivered, failed := w.countP_status .failed,
           skipped := ?_, deferred := rfl, remaining := rfl, written := ?_,
           passed := fun entry => w.passed }
  · simp only [DeliverySweep.stats, landed, List.length_append]
    omega
  · simp only [DeliverySweep.stats, landed]
    omega
  · intro row member current
    obtain ⟨t, inTransitions, untouched⟩ := (asFetched_iff w.all).mp current
    have isRow := (isUntouched_iff.mp untouched).1
    exact ⟨t, inTransitions, isRow.symm,
      get?_of_mem w.final_consistent.ids (w.settle_mem inTransitions member untouched) rfl⟩

end OutboxRows.WriteBack

/-- The counters of a sweep that succeeds, whatever others do to the table between its fetch and its
writes. -/
theorem Surroundings.sweep_statistics {τ : Type} {table : OutboxTable}
    (around : Surroundings τ table) (sweep : DeliverySweep) {s t : Site τ} {stats : DeliveryStats}
    (consistent : (s.store.rows table).Consistent)
    (ran : (sweep.run around.services).run s = (.ok stats, t)) :
    ∃ attempted deferred transitions left ids,
      sweep.Reaches around.services s (attempted ++ deferred) transitions left ∧
      OutboxRows.WriteBack attempted deferred transitions left.clock (left.store.rows table) ids
        (t.store.rows table) ∧
      stats.Tally attempted deferred transitions left.clock (left.store.rows table) ids
        (t.store.rows table) := by
  obtain ⟨fetched, transitions, left, ids, rows, reaches, settled, written, counted⟩ :=
    run_eq_ok ran
  obtain ⟨⟨attempted, deferred, rfl, all⟩, distinct, leftConsistent⟩ :=
    of_reaches consistent reaches
  rw [List.drop_left' all.length_eq] at written counted
  have final : t.store.rows table = rows.givenBack deferred left.clock := by
    rw [written, Site.rows_withRows]
  have w : OutboxRows.WriteBack attempted deferred transitions left.clock (left.store.rows table)
      ids (t.store.rows table) := ⟨leftConsistent, distinct, all, rows, settled, final⟩
  exact ⟨attempted, deferred, transitions, left, ids, reaches, w, counted ▸ w.tally⟩

/-- The theorem about a sweep that delivers an entry while another one writes that its own attempt
at the entry failed. -/
theorem Surroundings.sweep_statistics_lost :
    let time : Instant := ⟨1767225600, 0⟩
    let s : Site Unit := {
      store := ({} : Store).after [⟨{}, time, .emit ⟨"file", "1", "file.stored", none, none⟩⟩,
        ⟨{}, time, .createEndpoint ⟨"http://a.test", "secret", []⟩⟩]
      clock := time
      others := () }
    let around : Surroundings Unit .core := .busy .core
      (fun endpoint entry => [⟨{}, time, .applyTransitions [⟨entry.id, 0, 1, .pending,
        some ⟨1767225660, 0⟩, none, endpoint.url ++ ": HTTP 503"⟩]⟩])
      fun _ _ => .success 200
    (s.store.rows .core).Consistent ∧
      ∃ stats t, (({} : DeliverySweep).run around.services).run s = (.ok stats, t) ∧
        stats = ⟨0, 0, 0, 1, 0, 1⟩ ∧
        ∃ attempted deferred transitions left ids,
          ({} : DeliverySweep).Reaches around.services s (attempted ++ deferred) transitions left ∧
          OutboxRows.WriteBack attempted deferred transitions left.clock (left.store.rows .core) ids
            (t.store.rows .core) ∧
          stats.Tally attempted deferred transitions left.clock (left.store.rows .core) ids
            (t.store.rows .core) := by
  intro time s around
  have consistent : (s.store.rows .core).Consistent := Store.after_consistent _ _
  have counted : ((({} : DeliverySweep).run around.services).run s).1.toOption =
      some ⟨0, 0, 0, 1, 0, 1⟩ := by decide +kernel
  rcases ran : (({} : DeliverySweep).run around.services).run s with ⟨_ | stats, t⟩ <;>
    rw [ran] at counted
  · cases counted
  · exact ⟨consistent, stats, t, rfl, Option.some.inj counted,
      around.sweep_statistics {} consistent ran⟩

end OutboxRelay
