import OutboxRelay.Proofs.StaleSettlement

namespace OutboxRelay

namespace OutboxRows

/-- The transitions of a batch that land, each on the rows that those before it left. -/
def landing (rows : OutboxRows) (clock : Instant) : List EntryTransition → List EntryTransition
  | [] => []
  | t :: rest =>
    match rows.applyTransition t clock with
    | .ok (landed, rows') =>
      if landed then t :: landing rows' clock rest else landing rows' clock rest
    | .error _ => []

/-- The attempts at an entry of the table that a call settles, in order. -/
def landedBy (rows : OutboxRows) (table : OutboxTable) (id : Uuid) (x : Transaction) :
    List EntryTransition :=
  match x.call with
  | .applyTransitions transitions =>
    if x.db.outbox.table = table ∧ (rows.applyTransitions transitions x.now).isOk then
      (rows.landing x.now transitions).filter (·.id = id)
    else []
  | _ => []

variable {table : OutboxTable} {rows rows' : OutboxRows} {clock : Instant}
  {transitions : List EntryTransition} {ids : List Uuid} {id : Uuid} {t : EntryTransition}
  {count : Nat}

theorem landing_cons {between : OutboxRows} (rest : List EntryTransition)
    (clean : hasNull t.errorMessage = false)
    (first : rows.amend (isUntouched t.id t.previousAttempts) (settle t clock) =
      .ok (between, count)) :
    rows.landing clock (t :: rest) =
      if 0 < count then t :: between.landing clock rest else between.landing clock rest := by
  have wrote := applyTransition_eq_ok_iff.mpr ⟨clean, count, rfl, first⟩
  simp only [landing, wrote, decide_eq_true_eq]

/-- A batch names the entries whose transitions land. -/
theorem landing_ids (settled : rows.applyTransitions transitions clock = .ok (ids, rows')) :
    (rows.landing clock transitions).map (·.id) = ids := by
  induction transitions generalizing rows ids with
  | nil =>
    cases settled
    rfl
  | cons t rest ih =>
    obtain ⟨between, n, more, clean, first, others, rfl⟩ :=
      applyTransitions_cons_eq_ok_iff.mp settled
    rw [landing_cons rest clean first, ← ih others]
    split <;> rfl

theorem landing_sublist (settled : rows.applyTransitions transitions clock = .ok (ids, rows')) :
    (rows.landing clock transitions).Sublist transitions := by
  induction transitions generalizing rows ids with
  | nil => exact .slnil
  | cons t rest ih =>
    obtain ⟨between, n, more, clean, first, others, rfl⟩ :=
      applyTransitions_cons_eq_ok_iff.mp settled
    rw [landing_cons rest clean first]
    split
    · exact (ih others).cons_cons t
    · exact (ih others).cons t

/-- Where every guard of a batch of different entries finds its row, all of them land. -/
theorem landing_eq_self (settled : rows.applyTransitions transitions clock = .ok (ids, rows'))
    (distinct : transitions.Pairwise fun a b => a.id ≠ b.id)
    (current : ∀ t ∈ transitions, ∃ row ∈ rows, isUntouched t.id t.previousAttempts row = true) :
    rows.landing clock transitions = transitions := by
  refine (landing_sublist settled).eq_of_length ?_
  have named := congrArg List.length (landing_ids settled)
  rwa [applyTransitions_ids settled distinct current, List.length_map, List.length_map] at named

/-- What a guarded write leaves: the row of its entry changed, if it lands, and every other row as
it was. -/
theorem Consistent.mem_amend {attempts : Int} {change : OutboxEntry → OutboxEntry}
    {row : OutboxEntry} (consistent : rows.Consistent)
    (amended : rows.amend (isUntouched id attempts) change = .ok (rows', count))
    (keeps : ∀ row, (change row).id = row.id) (member : row ∈ rows') :
    (0 < count ∧ row.id = id ∧
        ∃ old ∈ rows, isUntouched id attempts old = true ∧ row = change old) ∨
      ¬(0 < count ∧ row.id = id) ∧ row ∈ rows := by
  have found := amend_pos_iff amended
  obtain ⟨_, rfl, _⟩ := amend_eq_ok_iff.mp amended
  obtain ⟨old, inRows, rfl⟩ := List.mem_map.mp member
  by_cases untouched : isUntouched id attempts old = true
  · rw [if_pos untouched]
    exact .inl ⟨found.mpr ⟨old, inRows, untouched⟩,
      (keeps old).trans (isUntouched_iff.mp untouched).1, old, inRows, untouched, rfl⟩
  · rw [if_neg untouched]
    refine .inr ⟨fun ⟨landed, same⟩ => ?_, inRows⟩
    obtain ⟨other, inRows', reached⟩ := found.mp landed
    have isOld := consistent.eq_of_id inRows inRows' (same.trans (isUntouched_iff.mp reached).1.symm)
    exact untouched (isOld ▸ reached)

/-- A batch settles as many attempts at an entry as land. -/
theorem length_landedBy (rows : OutboxRows) (table : OutboxTable) (id : Uuid) (x : Transaction) :
    (rows.landedBy table id x).length = rows.settledBy table id x := by
  obtain ⟨db, now, call⟩ := x
  cases call with
  | applyTransitions transitions =>
    simp only [landedBy, settledBy]
    by_cases target : db.outbox.table = table
    · rw [if_pos target]
      rcases settled : rows.applyTransitions transitions now with e | ⟨ids, rows'⟩
      · rw [if_neg fun all => Bool.false_ne_true all.2]
        rfl
      · rw [if_pos ⟨target, rfl⟩, ← landing_ids settled, ← List.countP_eq_length_filter]
        change _ = List.count id _
        rw [List.count, List.countP_map]
        rfl
    · rw [if_neg target, if_neg (mt And.left target), List.length_nil]
  | _ => rfl

theorem landedBy_eq_nil {rows : OutboxRows} {x : Transaction}
    (none : rows.settledBy table id x = 0) : rows.landedBy table id x = [] :=
  List.eq_nil_of_length_eq_zero ((length_landedBy rows table id x).trans none)

/-- Only a batch settles attempts. -/
theorem landedBy_of_ne {rows : OutboxRows} {x : Transaction}
    (other : ∀ transitions, x.call ≠ .applyTransitions transitions) :
    rows.landedBy table id x = [] := by
  unfold landedBy
  split
  · rename_i found
    exact absurd found (other _)
  · rfl

/-- Only an operator's request makes a failed entry pending again. -/
theorem renewedBy_of_ne {rows : OutboxRows} {x : Transaction}
    (other : ∀ ids due, x.call ≠ .requeueFailed ids due) :
    rows.renewedBy table id x = false := by
  unfold renewedBy
  split
  · rename_i found
    exact absurd found (other _ _)
  · rfl

end OutboxRows

/-- Every identifier belongs to a number. -/
theorem Uuid.exists_ofSerial (id : Uuid) : ∃ number < 2 ^ 128, id = Uuid.ofSerial number := by
  have bound := id.bits.isLt
  refine ⟨(id.bits.toNat + 2 ^ 128 - 0x019c0000000070008000000000000000) % 2 ^ 128,
    Nat.mod_lt _ (by decide), ?_⟩
  obtain ⟨bits⟩ := id
  refine congrArg Uuid.mk (BitVec.eq_of_toNat_eq ?_)
  rw [BitVec.toNat_ofNat]
  simp only at bound ⊢
  omega

/-- A row goes through transitions one after the other, each of which finds it as expected. -/
inductive OutboxEntry.Settles (clock : Instant) :
    OutboxEntry → List EntryTransition → OutboxEntry → Prop
  | done {row} : Settles clock row [] row
  | next {row t rest row'} : OutboxRows.isUntouched t.id t.previousAttempts row = true →
      Settles clock (OutboxRows.settle t clock row) rest row' → Settles clock row (t :: rest) row'

theorem OutboxEntry.Settles.fixedPart {clock : Instant} {row row' : OutboxEntry}
    {transitions : List EntryTransition} (settles : row.Settles clock transitions row') :
    row'.fixedPart = row.fixedPart := by
  induction settles with
  | done => rfl
  | next _ _ ih => exact ih

/-- What one call can make of a row of an outbox table. `landed` are the attempts at its entry that
the call settles, and `renewed` tells whether it makes a failed entry pending again. -/
inductive OutboxEntry.Turn (table : OutboxTable) (x : Transaction) :
    OutboxEntry → List EntryTransition → Bool → OutboxEntry → Prop
  | kept {row} : Turn table x row [] false row
  | claimed {row time limit lease claimEnd} : x.db.outbox.table = table →
      x.call = .fetchDue time limit lease → time.add? lease = some claimEnd →
      row.isDue time.stored = true → Turn table x row [] false (OutboxRows.claim claimEnd x.now row)
  | restored {row entries copy} : x.db.outbox.table = table → x.call = .release entries →
      copy ∈ entries → OutboxRows.isUntouched copy.id copy.attempts row = true →
      Turn table x row [] false (OutboxRows.restore copy x.now row)
  | settled {row transitions landed row'} : x.db.outbox.table = table →
      x.call = .applyTransitions transitions → landed.Sublist transitions →
      row.Settles x.now landed row' → Turn table x row landed false row'
  | renewed {row ids due} : x.db.outbox.table = table → x.call = .requeueFailed ids due →
      row.status = .failed → Turn table x row [] true (OutboxRows.renew due x.now row)

theorem OutboxEntry.Turn.fixedPart {table : OutboxTable} {x : Transaction} {row row' : OutboxEntry}
    {landed : List EntryTransition} {renewed : Bool} (turn : row.Turn table x landed renewed row') :
    row'.fixedPart = row.fixedPart := by
  cases turn with
  | settled _ _ _ settles => exact settles.fixedPart
  | _ => rfl

namespace OutboxRows
variable {table : OutboxTable} {rows rows' : OutboxRows} {clock : Instant} {row : OutboxEntry}

/-- After a batch every row has gone through the transitions of its entry that landed. -/
theorem Consistent.settles {transitions : List EntryTransition} {ids : List Uuid}
    (consistent : rows.Consistent)
    (settled : rows.applyTransitions transitions clock = .ok (ids, rows')) (member : row ∈ rows') :
    ∃ old ∈ rows,
      old.Settles clock ((rows.landing clock transitions).filter (·.id = row.id)) row := by
  induction transitions generalizing rows ids with
  | nil =>
    cases settled
    exact ⟨row, member, .done⟩
  | cons t rest ih =>
    obtain ⟨between, n, more, clean, first, others, rfl⟩ :=
      applyTransitions_cons_eq_ok_iff.mp settled
    have kept : between.Consistent :=
      consistent.amend first (fun _ => rfl) fun _ => stored_map_stored _
    obtain ⟨mid, inBetween, settles⟩ := ih kept others
    have same := OutboxEntry.id_of_fixedPart settles.fixedPart
    rw [landing_cons rest clean first]
    rcases consistent.mem_amend first (fun _ => rfl) inBetween with
      ⟨landed, isEntry, old, inRows, untouched, rfl⟩ | ⟨passed, inRows⟩
    · have isRow : t.id = row.id := isEntry.symm.trans same.symm
      rw [if_pos landed, List.filter_cons, if_pos (decide_eq_true isRow)]
      exact ⟨old, inRows, .next untouched settles⟩
    · refine ⟨mid, inRows, ?_⟩
      split
      · rename_i landed
        have other : t.id ≠ row.id := fun isRow => passed ⟨landed, same.symm.trans isRow.symm⟩
        rwa [List.filter_cons, if_neg (by rwa [decide_eq_true_eq])]
      · exact settles

/-- A row after a release has its schedule, or that of one of the copies that went back. -/
theorem Consistent.restored {entries : List OutboxEntry} {count : Nat} (consistent : rows.Consistent)
    (released : rows.release entries clock = .ok (count, rows')) (member : row ∈ rows') :
    row ∈ rows ∨ ∃ old ∈ rows, ∃ copy ∈ entries,
      isUntouched copy.id copy.attempts old = true ∧ row = restore copy clock old := by
  induction entries generalizing rows count with
  | nil =>
    cases released
    exact .inl member
  | cons entry rest ih =>
    obtain ⟨between, n, more, first, others, _⟩ := release_cons_eq_ok_iff.mp released
    have kept : between.Consistent :=
      consistent.amend first (fun _ => rfl) fun _ => stored_map_stored _
    rcases ih kept others with inBetween | ⟨mid, inBetween, copy, inRest, untouched, rfl⟩
    · rcases consistent.mem_amend first (fun _ => rfl) inBetween with
        ⟨_, _, old, inRows, untouched, rfl⟩ | ⟨_, inRows⟩
      · exact .inr ⟨old, inRows, entry, List.mem_cons_self, untouched, rfl⟩
      · exact .inl inRows
    · refine .inr ?_
      rcases consistent.mem_amend first (fun _ => rfl) inBetween with
        ⟨_, _, old, inRows, _, rfl⟩ | ⟨_, inRows⟩
      -- the last copy to go back decides
      · exact ⟨old, inRows, copy, List.mem_cons_of_mem _ inRest, untouched, rfl⟩
      · exact ⟨mid, inRows, copy, List.mem_cons_of_mem _ inRest, untouched, rfl⟩

/-- A row after a request to try again has been made pending, or is as it was. -/
theorem Consistent.requeued {ids : List Uuid} {due : Instant} {count : Nat}
    (consistent : rows.Consistent)
    (requeued : rows.requeueFailed ids due clock = .ok (count, rows')) (member : row ∈ rows') :
    ∃ old ∈ rows, old.id = row.id ∧
      if rows.any (fun other => other.id = row.id &&
        (ids.contains other.id && other.status = .failed)) then
        old.status = .failed ∧ row = renew due clock old
      else row = old := by
  obtain ⟨_, rfl, _⟩ := amend_eq_ok_iff.mp (requeueFailed_eq_ok_iff.mp requeued).2
  obtain ⟨old, inRows, isRow⟩ := List.mem_map.mp member
  have same : old.id = row.id := by
    rw [← isRow]
    split <;> rfl
  refine ⟨old, inRows, same, ?_⟩
  split
  · rename_i found
    obtain ⟨other, inRows', reached⟩ := List.any_eq_true.mp found
    obtain ⟨isOther, picked⟩ := Bool.and_eq_true_iff.mp reached
    have isOld := consistent.eq_of_id inRows' inRows ((of_decide_eq_true isOther).trans same.symm)
    rw [isOld] at picked
    rw [if_pos picked] at isRow
    exact ⟨of_decide_eq_true (Bool.and_eq_true_iff.mp picked).2, isRow.symm⟩
  · rename_i missed
    have passed : ¬(ids.contains old.id && old.status = .failed) = true := fun picked =>
      missed (List.any_eq_true.mpr ⟨old, inRows, by rw [picked, decide_eq_true same]; rfl⟩)
    rw [if_neg passed] at isRow
    exact isRow.symm

/-- A row after a fetch is hidden by a claim, if it was due, or is as it was. -/
theorem Consistent.claimed {time : Instant} {limit : Int} {lease : Period}
    {entries : List OutboxEntry} (consistent : rows.Consistent)
    (fetched : rows.fetchDue time limit lease clock = .ok (entries, rows')) (member : row ∈ rows') :
    row ∈ rows ∨ ∃ old ∈ rows, ∃ claimEnd, time.add? lease = some claimEnd ∧
      old.isDue time.stored = true ∧ row = claim claimEnd clock old := by
  obtain ⟨claimEnd, ends, _, _, rfl⟩ := fetchDue_eq_ok_iff.mp fetched
  obtain ⟨old, inRows, rfl⟩ := List.mem_map.mp member
  split
  · rename_i taken
    have due := (due_of_fetched fetched ((consistent.mem_fetched fetched inRows).mp taken)).2
    exact .inr ⟨old, inRows, claimEnd, ends, due, rfl⟩
  · exact .inl inRows

/-- A row is new or was there before the emission. -/
theorem Emitted.mem_cases {serial serial' : Nat} (emitted : Emitted rows serial rows' serial')
    (member : row ∈ rows') :
    row ∈ rows ∨ ∃ number settings event now, serial ≤ number ∧ number < serial' ∧
      row = OutboxSettings.newEntry settings (Uuid.ofSerial number) event now ∧
      row.fault? = none := by
  induction emitted with
  | quiet _ => exact .inl member
  | @put between number last serial' settings event now before inserted _ bound ih =>
    obtain ⟨accepted, _, _, rfl⟩ := insert_eq_ok_iff.mp inserted
    have rising := before.serial_le
    rcases List.mem_append.mp member with earlier | new
    · refine (ih earlier).imp_right ?_
      rintro ⟨number', settings', event', now', after, bound', made⟩
      exact ⟨number', settings', event', now', after, by omega, made⟩
    · have isNew := List.mem_singleton.mp new
      exact .inr ⟨number, settings, event, now, rising, bound, isNew, isNew ▸ accepted⟩

/-- Every row after a call that settles no attempts and makes nothing pending again is new, or was
made of one that was there before. -/
theorem Step.turn {x : Transaction} {entries : List OutboxEntry} {serial serial' : Nat}
    (step : Step table x rows serial entries rows' serial') (consistent : rows.Consistent)
    (settlesNone : ∀ transitions, x.call ≠ .applyTransitions transitions)
    (renewsNone : ∀ ids due, x.call ≠ .requeueFailed ids due) (member : row ∈ rows') :
    (∃ number settings event now, serial ≤ number ∧ number < serial' ∧
        row = OutboxSettings.newEntry settings (Uuid.ofSerial number) event now ∧
        row.fault? = none) ∨
      ∃ old ∈ rows, old.Turn table x [] false row := by
  cases step with
  | emitted emitted =>
    rcases emitted.mem_cases member with old | new
    · exact .inr ⟨row, old, .kept⟩
    · exact .inl new
  | fetched target isFetch fetched =>
    rcases consistent.claimed fetched member with kept | ⟨old, inRows, claimEnd, ends, due, rfl⟩
    · exact .inr ⟨row, kept, .kept⟩
    · exact .inr ⟨old, inRows, .claimed target isFetch ends due⟩
  | released target isRelease released =>
    rcases consistent.restored released member with kept | ⟨old, inRows, copy, given, reached, rfl⟩
    · exact .inr ⟨row, kept, .kept⟩
    · exact .inr ⟨old, inRows, .restored target isRelease given reached⟩
  | settled _ isApply _ => exact absurd isApply (settlesNone _)
  | cleaned _ _ cleaned =>
    rw [cleanup_eq_ok cleaned] at member
    exact .inr ⟨row, List.mem_of_mem_filter member, .kept⟩
  | requeued _ isRequeue _ => exact absurd isRequeue (renewsNone _ _)

end OutboxRows

/-- Every row that is there after a call is new, or was made of one that was there before. -/
theorem Store.perform_turn {table : OutboxTable} (s : Store) {x : Transaction} {row : OutboxEntry}
    (consistent : (s.rows table).Consistent) (member : row ∈ (s.perform x).2.rows table) :
    (∃ number settings event now, s.serial ≤ number ∧ number < (s.perform x).2.serial ∧
        row = OutboxSettings.newEntry settings (Uuid.ofSerial number) event now ∧
        row.fault? = none) ∨
      ∃ old ∈ s.rows table, old.Turn table x ((s.rows table).landedBy table row.id x)
        ((s.rows table).renewedBy table row.id x) row := by
  by_cases isApply : ∃ transitions, x.call = .applyTransitions transitions
  · obtain ⟨transitions, isApply⟩ := isApply
    rw [OutboxRows.renewedBy_of_ne fun _ _ other => nomatch isApply.symm.trans other]
    refine .inr ?_
    rcases s.perform_applyTransitions_cases isApply table with ⟨kept, none, _⟩ |
      ⟨ids, target, settled, _, _⟩
    · rw [kept] at member
      rw [OutboxRows.landedBy_eq_nil (none row.id)]
      exact ⟨row, member, .kept⟩
    · obtain ⟨old, inRows, settles⟩ := consistent.settles settled member
      have landed : (s.rows table).landedBy table row.id x =
          ((s.rows table).landing x.now transitions).filter (·.id = row.id) := by
        simp only [OutboxRows.landedBy, isApply]
        rw [if_pos ⟨target, by rw [settled]; rfl⟩]
      rw [landed]
      exact ⟨old, inRows, .settled target isApply
        (List.filter_sublist.trans (OutboxRows.landing_sublist settled)) settles⟩
  · have settlesNone : ∀ transitions, x.call ≠ .applyTransitions transitions :=
      fun transitions found => isApply ⟨transitions, found⟩
    rw [OutboxRows.landedBy_of_ne settlesNone]
    by_cases isRequeue : ∃ ids due, x.call = .requeueFailed ids due
    · obtain ⟨ids, due, isRequeue⟩ := isRequeue
      refine .inr ?_
      rcases s.perform_requeueFailed_cases isRequeue table with ⟨kept, none⟩ |
        ⟨count, target, requeued, found⟩
      · rw [kept] at member
        rw [none]
        exact ⟨row, member, .kept⟩
      · obtain ⟨old, inRows, same, became⟩ := consistent.requeued requeued member
        rw [← found] at became
        split at became
        · rename_i renewed
          obtain ⟨failed, rfl⟩ := became
          rw [renewed]
          exact ⟨old, inRows, .renewed target isRequeue failed⟩
        · rename_i unrenewed
          rw [eq_false_of_ne_true unrenewed, became]
          exact ⟨old, inRows, .kept⟩
    · have renewsNone : ∀ ids due, x.call ≠ .requeueFailed ids due :=
        fun ids due found => isRequeue ⟨ids, due, found⟩
      rw [OutboxRows.renewedBy_of_ne renewsNone]
      exact (s.perform_step x table).turn consistent settlesNone renewsNone member

namespace Store

/-- The attempts at an entry that count once a call is made: a landed one counts, and with a request
to try again the count starts anew. -/
def logAfter (s : Store) (table : OutboxTable) (id : Uuid) (log : List EntryTransition)
    (x : Transaction) : List EntryTransition :=
  if (s.rows table).renewedBy table id x then []
  else log ++ (s.rows table).landedBy table id x

/-- The attempts at an entry that have landed in a run since it last started from none, `log` being
those from before the run. -/
def landings (s : Store) (table : OutboxTable) (id : Uuid) (log : List EntryTransition) :
    List Transaction → List EntryTransition
  | [] => log
  | x :: rest => (s.perform x).2.landings table id (s.logAfter table id log x) rest

theorem landings_append (s : Store) (table : OutboxTable) (id : Uuid)
    (log : List EntryTransition) (first second : List Transaction) :
    s.landings table id log (first ++ second) =
      (s.after first).landings table id (s.landings table id log first) second := by
  induction first generalizing s log with
  | nil => rfl
  | cons x rest ih => exact ih _ _

theorem id_of_landings {s : Store} {table : OutboxTable} {id : Uuid} {log : List EntryTransition}
    {run : List Transaction} (before : ∀ t ∈ log, t.id = id) :
    ∀ t ∈ s.landings table id log run, t.id = id := by
  induction run generalizing s log with
  | nil => exact before
  | cons x rest ih =>
    refine ih ?_
    rw [logAfter]
    split
    · exact List.forall_mem_nil _
    · refine List.forall_mem_append.mpr ⟨before, fun t landed => ?_⟩
      unfold OutboxRows.landedBy at landed
      split at landed
      · split at landed
        · exact of_decide_eq_true (List.mem_filter.mp landed).2
        · cases landed
      · cases landed

end Store

end OutboxRelay
