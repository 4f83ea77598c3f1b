import OutboxRelay.Proofs.AttemptAccount

namespace OutboxRelay

/-- Attempts that an entry is done with: the last of them is its first success, or all have failed
that it had. -/
def EntryTransition.Conclude (limit : Int) (log : List EntryTransition) : Prop :=
  (∃ failures success, log = failures ++ [success] ∧ (failures.length : Int) < limit ∧
      (∀ t ∈ failures, t.status ≠ .delivered) ∧ success.status = .delivered) ∨
    (log.length : Int) = limit ∧ ∀ t ∈ log, t.status ≠ .delivered

theorem OutboxEntry.Accounts.conclude {row : OutboxEntry} {log : List EntryTransition}
    (accounts : row.Accounts log) (settled : row.status ≠ .pending) :
    EntryTransition.Conclude row.maxAttempts log := by
  have bounded := accounts.bounded
  cases status : row.status with
  | pending => exact absurd status settled
  | failed => exact .inr (accounts.failed.mp status)
  | delivered =>
    obtain ⟨success, last, delivered⟩ := accounts.delivered.mp status
    obtain ⟨failures, rfl⟩ := List.getLast?_eq_some_iff.mp last
    have earlier := accounts.first
    rw [List.dropLast_concat] at earlier
    rw [List.length_append, List.length_singleton] at bounded
    exact .inl ⟨failures, success, rfl, by omega, earlier, delivered⟩

/-- No row that is still pending has been concluded. -/
theorem OutboxEntry.Accounts.not_conclude {row : OutboxEntry} {log : List EntryTransition}
    (accounts : row.Accounts log) (pending : row.status = .pending) :
    ¬EntryTransition.Conclude row.maxAttempts log := by
  obtain ⟨more, failures⟩ := accounts.pending.mp pending
  rintro (⟨_, success, rfl, _, _, delivered⟩ | ⟨full, _⟩)
  · exact failures success (List.mem_append_right _ (List.mem_singleton_self _)) delivered
  · omega

namespace OutboxRows

/-- How an entry and the attempts at it that landed fit together: it is pending, or concluded and
perhaps deleted since. -/
structure Budget (rows : OutboxRows) (entry : OutboxEntry) (log : List EntryTransition) : Prop where
  accounts : ∀ row ∈ rows, row.id = entry.id →
    row.Accounts log ∧ row.maxAttempts = entry.maxAttempts
  course : (∃ row ∈ rows, row.id = entry.id ∧ row.status = .pending) ∨
    EntryTransition.Conclude entry.maxAttempts log

/-- What has become of an entry, given the attempts at it that landed since it last started from
none. It was delivered at the first success, or failed with the last attempt that it had, and then
no sweep finds it due again; or it waits for one that does. -/
inductive Spent (rows : OutboxRows) (entry : OutboxEntry) (log : List EntryTransition) : Prop
  | delivered (failures : List EntryTransition) (success : EntryTransition) :
      log = failures ++ [success] → (failures.length : Int) < entry.maxAttempts →
      (∀ t ∈ failures, t.status ≠ .delivered) → success.status = .delivered →
      (∀ time, ∀ due ∈ rows.due time, due.id ≠ entry.id) → Spent rows entry log
  | failed : (log.length : Int) = entry.maxAttempts → (∀ t ∈ log, t.status ≠ .delivered) →
      (∀ time, ∀ due ∈ rows.due time, due.id ≠ entry.id) → Spent rows entry log
  | waiting (row : OutboxEntry) (next : Instant) : (log.length : Int) < entry.maxAttempts →
      (∀ t ∈ log, t.status ≠ .delivered) → row ∈ rows → row.id = entry.id →
      row.nextAttemptAt = some next →
      (∀ time : Instant, next.le time.stored = true → row ∈ rows.due time) → Spent rows entry log

variable {table : OutboxTable} {rows : OutboxRows} {entry row : OutboxEntry}
  {log : List EntryTransition}

/-- A pending row is due from its schedule on. -/
theorem Consistent.mem_due_of_pending (consistent : rows.Consistent) (member : row ∈ rows)
    (pending : row.status = .pending) :
    ∃ next, row.nextAttemptAt = some next ∧
      ∀ time : Instant, next.le time.stored = true → row ∈ rows.due time := by
  obtain ⟨next, scheduled⟩ :=
    Option.isSome_iff_exists.mp ((consistent.lawful member).2.2.mp pending)
  refine ⟨next, scheduled, fun time late => mem_due.mpr ⟨member, ?_⟩⟩
  rw [OutboxEntry.isDue, scheduled, Option.any_some, late, decide_eq_true pending]
  rfl

theorem Budget.spent (budget : rows.Budget entry log) (consistent : rows.Consistent) :
    rows.Spent entry log := by
  -- what is due is pending, and so not concluded
  have ended (concluded : EntryTransition.Conclude entry.maxAttempts log) :
      ∀ time, ∀ due ∈ rows.due time, due.id ≠ entry.id := by
    intro time due among same
    obtain ⟨inRows, isDue⟩ := mem_due.mp among
    obtain ⟨accounts, limit⟩ := budget.accounts due inRows same
    exact accounts.not_conclude (OutboxEntry.pending_of_isDue isDue) (limit ▸ concluded)
  rcases budget.course with ⟨row, member, same, pending⟩ | concluded
  · obtain ⟨accounts, limit⟩ := budget.accounts row member same
    obtain ⟨more, failures⟩ := accounts.pending.mp pending
    obtain ⟨next, scheduled, due⟩ := consistent.mem_due_of_pending member pending
    exact .waiting row next (limit ▸ more) failures member same scheduled due
  · have never := ended concluded
    rcases concluded with ⟨failures, success, parts, within, before, delivered⟩ | ⟨full, failures⟩
    · exact .delivered failures success parts within before delivered never
    · exact .failed full failures never

end OutboxRows

namespace Store
variable {table : OutboxTable} {s : Store} {x : Transaction} {entry : OutboxEntry}
  {log : List EntryTransition}

/-- A row that no cleanup may delete is carried through a call. -/
theorem perform_carries {row : OutboxEntry} (consistent : (s.rows table).Consistent)
    (member : row ∈ s.rows table) (stays : row.Expired table x → False) :
    ∃ row' ∈ (s.perform x).2.rows table, row'.id = row.id := by
  obtain ⟨change, course⟩ := s.perform_course x consistent
  have undeleted : s.deletes table x row = false :=
    eq_false_of_ne_true fun gone => stays (course.expired row member gone)
  refine ⟨change row, ?_, OutboxEntry.id_of_fixedPart (course.fixed row member)⟩
  rw [course.rows]
  refine List.mem_append_left _ (List.mem_map_of_mem (List.mem_filter.mpr ⟨member, ?_⟩))
  rw [undeleted]
  rfl

/-- A call that makes an entry pending again leaves the entry there. -/
theorem exists_of_renewedBy {id : Uuid} (consistent : (s.rows table).Consistent)
    (renewed : (s.rows table).renewedBy table id x = true) :
    ∃ row ∈ (s.perform x).2.rows table, row.id = id := by
  unfold OutboxRows.renewedBy at renewed
  split at renewed
  · rename_i isRequeue
    obtain ⟨row, member, found⟩ := List.any_eq_true.mp (Bool.and_eq_true_iff.mp renewed).2
    have same := of_decide_eq_true (Bool.and_eq_true_iff.mp found).1
    obtain ⟨row', member', isRow⟩ := perform_carries (x := x) consistent member
      fun ⟨_, _, _, _, isCleanup, _⟩ => nomatch isRequeue.symm.trans isCleanup
    exact ⟨row', member', isRow.trans same⟩
  · cases renewed

/-- One call keeps an entry within its limit. -/
theorem perform_budget {copies : List OutboxEntry} {number : Nat}
    (consistent : (s.rows table).Consistent) (tracked : (s.rows table).Tracked s.serial copies)
    (permitted : x.Permitted table copies) (room : (s.perform x).2.serial ≤ 2 ^ 128)
    (isNumber : entry.id = Uuid.ofSerial number) (issued : number < s.serial)
    (budget : (s.rows table).Budget entry log) :
    ((s.perform x).2.rows table).Budget entry (s.logAfter table entry.id log x) := by
  have rising := s.serial_le_perform x
  obtain ⟨_, after⟩ := perform_accounts consistent tracked permitted room isNumber
    (by omega) (fun _ => issued) fun row member same => (budget.accounts row member same).1
  -- no row of the entry is new
  have turns : ∀ row ∈ (s.perform x).2.rows table, row.id = entry.id →
      ∃ old ∈ s.rows table, old.id = entry.id ∧ row.maxAttempts = old.maxAttempts ∧
        old.Turn table x ((s.rows table).landedBy table entry.id x)
          ((s.rows table).renewedBy table entry.id x) row := by
    intro row member same
    rcases s.perform_turn consistent member with
      ⟨number', settings, event, now, later, bound, rfl, _⟩ | ⟨old, inRows, turn⟩
    · exact absurd (isNumber.symm.trans same.symm) (Uuid.ofSerial_ne (by omega) (by omega))
    · obtain ⟨isOld, _, _, _, _, _, limit, _⟩ := OutboxEntry.fixedPart_eq_iff.mp turn.fixedPart
      rw [same] at turn
      exact ⟨old, inRows, isOld.symm.trans same, limit, turn⟩
  have accounts : ∀ row ∈ (s.perform x).2.rows table, row.id = entry.id →
      row.Accounts (s.logAfter table entry.id log x) ∧ row.maxAttempts = entry.maxAttempts := by
    intro row member same
    obtain ⟨old, inRows, isOld, limit, _⟩ := turns row member same
    exact ⟨after row member same, limit.trans (budget.accounts old inRows isOld).2⟩
  refine ⟨accounts, ?_⟩
  -- a row that is there afterwards is pending, or its account is concluded
  have settledOrNot : (∃ row ∈ (s.perform x).2.rows table, row.id = entry.id) →
      (∃ row ∈ (s.perform x).2.rows table, row.id = entry.id ∧ row.status = .pending) ∨
        EntryTransition.Conclude entry.maxAttempts (s.logAfter table entry.id log x) := by
    rintro ⟨row, member, same⟩
    obtain ⟨account, limit⟩ := accounts row member same
    by_cases pending : row.status = .pending
    · exact .inl ⟨row, member, same, pending⟩
    · exact .inr (limit ▸ account.conclude pending)
  rcases budget.course with ⟨row, member, same, pending⟩ | concluded
  · obtain ⟨row', member', isRow⟩ := perform_carries (x := x) consistent member fun expired => by
      have terminal := expired.1
      rw [pending] at terminal
      cases terminal
    exact settledOrNot ⟨row', member', isRow.trans same⟩
  · by_cases present : ∃ row ∈ (s.perform x).2.rows table, row.id = entry.id
    · exact settledOrNot present
    · have none : (s.rows table).landedBy table entry.id x = [] := Classical.byContradiction
        fun landed => present (exists_of_landedBy landed).2
      have unrenewed := mt (exists_of_renewedBy consistent) present
      rw [logAfter, if_neg unrenewed, none, List.append_nil]
      exact .inr concluded

end Store

/-- Whether a call claims entries, settles attempts or makes failed entries pending again. -/
def Call.steers : Call → Bool
  | .fetchDue .. => true
  | .applyTransitions .. => true
  | .requeueFailed .. => true
  | _ => false

namespace Store

/-- The attempts at an entry that a batch of an outbox table writes down, unless the batch is
refused as a whole. -/
def outcomesOf (s : Store) (table : OutboxTable) (id : Uuid) (x : Transaction) :
    List EntryTransition :=
  match x.call, (s.perform x).1 with
  | .applyTransitions transitions, .ok _ =>
    if x.db.outbox.table = table then transitions.filter (·.id = id) else []
  | _, _ => []

/-- What came of the sweeps of a run that reached an entry and wrote down what they made of it. -/
def outcomes (s : Store) (table : OutboxTable) (id : Uuid) :
    List Transaction → List EntryTransition
  | [] => []
  | x :: rest => s.outcomesOf table id x ++ (s.perform x).2.outcomes table id rest

variable {table : OutboxTable} {s : Store} {x : Transaction} {id : Uuid}

/-- A call that writes no attempts down settles none. -/
theorem outcomesOf_of_ne (other : x.db.outbox.table = table →
    ∀ transitions, x.call ≠ .applyTransitions transitions) :
    (s.rows table).landedBy table id x = [] ∧ s.outcomesOf table id x = [] := by
  unfold OutboxRows.landedBy outcomesOf
  split
  · rename_i isApply
    have missed : x.db.outbox.table ≠ table := fun target => other target _ isApply
    rw [if_neg (mt And.left missed), isApply]
    refine ⟨rfl, ?_⟩
    cases (s.perform x).1 with
    | error e => rfl
    | ok reply => exact if_neg missed
  · rename_i isOther
    refine ⟨rfl, ?_⟩
    split
    · rename_i isApply _
      exact absurd isApply (isOther _)
    · rfl

/-- Attempts at copies that are up to date land if they are written down. -/
theorem outcomesOf_settled {transitions : List EntryTransition}
    (target : x.db.outbox.table = table) (isApply : x.call = .applyTransitions transitions)
    (distinct : transitions.Pairwise fun a b => a.id ≠ b.id)
    (current : ∀ t ∈ transitions, ∃ row ∈ s.rows table,
      OutboxRows.isUntouched t.id t.previousAttempts row = true) :
    (s.rows table).landedBy table id x = s.outcomesOf table id x := by
  unfold outcomesOf
  rw [isApply]
  rcases s.perform_applyTransitions_cases isApply table with ⟨_, none, failed⟩ |
    ⟨ids, _, settled, reply, _⟩
  · obtain ⟨e, _, reply⟩ := failed target
    rw [reply, OutboxRows.landedBy_eq_nil (none id)]
  · rw [reply]
    simp only [OutboxRows.landedBy, isApply]
    rw [if_pos ⟨target, by rw [settled]; rfl⟩, if_pos target,
      OutboxRows.landing_eq_self settled distinct current]

theorem landings_cons_eq {rest : List Transaction}
    (unrenewed : (s.rows table).renewedBy table id x = false)
    (landed : (s.rows table).landedBy table id x = s.outcomesOf table id x)
    (later : ∀ log, (s.perform x).2.landings table id log rest =
      log ++ (s.perform x).2.outcomes table id rest) (log : List EntryTransition) :
    s.landings table id log (x :: rest) = log ++ s.outcomes table id (x :: rest) := by
  rw [landings, logAfter, unrenewed, if_neg Bool.false_ne_true, later, landed, outcomes,
    List.append_assoc]

end Store

namespace Relay

/-- Runs in which one worker does all sweeps of an outbox table, one after the other, and no failed
entry is made pending again. `held` are the entries of its last fetch until it writes what became
of the first of them; it may also stop before that. Meanwhile there may be other calls. -/
inductive Alone (table : OutboxTable) : Relay → List OutboxEntry → List Transaction → Relay → Prop
  | done {r held} : Alone table r held [] r
  | fetch {r held x time limit lease rest r'} : x.db.outbox.table = table →
      x.call = .fetchDue time limit lease →
      Alone table (r.perform table x) (x.fetched table (r.store.perform x).1) rest r' →
      Alone table r held (x :: rest) r'
  | settle {r attempted deferred x transitions rest r'} : x.db.outbox.table = table →
      x.call = .applyTransitions transitions →
      List.Forall₂ OutboxEntry.Attempted attempted transitions →
      Alone table (r.perform table x) [] rest r' →
      Alone table r (attempted ++ deferred) (x :: rest) r'
  | other {r held x rest r'} : x.Permitted table r.copies →
      (x.db.outbox.table = table → x.call.steers = false) →
      Alone table (r.perform table x) held rest r' → Alone table r held (x :: rest) r'

variable {table : OutboxTable} {r r' : Relay} {run : List Transaction} {held : List OutboxEntry}
  {x : Transaction} {entry : OutboxEntry} {log : List EntryTransition}

theorem Leads.budget {number : Nat} (leads : Leads table r run r') (reach : Reachable table r)
    (room : r'.store.serial ≤ 2 ^ 128) (isNumber : entry.id = Uuid.ofSerial number)
    (issued : number < r.store.serial) (budget : (r.store.rows table).Budget entry log) :
    (r'.store.rows table).Budget entry (r.store.landings table entry.id log run) := by
  induction leads generalizing log with
  | done => exact budget
  | @call r r' x rest permitted others ih =>
    have rising := r.store.serial_le_perform x
    have room' := Nat.le_trans others.serial_le room
    exact ih (.perform reach permitted) room (Nat.lt_of_lt_of_le issued rising)
      (Store.perform_budget reach.consistent (reach.tracked (Nat.le_trans rising room')) permitted
        room' isNumber issued budget)

/-- The copies that a worker holds are up to date. -/
structure Current (r : Relay) (table : OutboxTable) (held : List OutboxEntry) : Prop where
  among : held ⊆ r.copies
  distinct : held.Pairwise fun a b => a.id ≠ b.id
  untouched : ∀ copy ∈ held, ∃ row ∈ r.store.rows table,
    OutboxRows.isUntouched copy.id copy.attempts row = true

theorem Current.idle (r : Relay) (table : OutboxTable) : r.Current table [] :=
  ⟨List.nil_subset _, .nil, List.forall_mem_nil _⟩

/-- A call that neither settles attempts nor makes entries pending again disturbs no copy. -/
theorem Current.kept (current : r.Current table held) (reach : Reachable table r)
    (permitted : x.Permitted table r.copies) (room : (r.store.perform x).2.serial ≤ 2 ^ 128)
    (unsettled : ∀ id, (r.store.rows table).settledBy table id x = 0)
    (unrenewed : ∀ id, (r.store.rows table).renewedBy table id x = false) :
    (r.perform table x).Current table held where
  among := List.Subset.trans current.among (List.subset_append_left _ _)
  distinct := current.distinct
  untouched copy among := by
    have leads : Leads table r [x] (r.perform table x) := .call permitted .done
    refine (leads.untouched_iff reach room (current.untouched copy among)).mpr (.inl ⟨?_, ?_⟩)
    · rw [Store.settlements, Store.settlements, unsettled]
    · rw [Store.renewed, Store.renewed, unrenewed]
      rfl

theorem Alone.leads (alone : Alone table r held run r') (among : held ⊆ r.copies) :
    Leads table r run r' := by
  induction alone with
  | done => exact .done
  | fetch _ isFetch _ ih =>
    refine .call ⟨fun _ _ other => (nomatch isFetch.symm.trans other),
      fun _ _ other => (nomatch isFetch.symm.trans other)⟩ (ih (List.subset_append_right _ _))
  | @settle r attempted deferred x transitions rest r' _ isApply all _ ih =>
    refine .call ⟨fun _ _ other => (nomatch isApply.symm.trans other), ?_⟩ (ih (List.nil_subset _))
    intro _ _ isApply' t member
    cases isApply.symm.trans isApply'
    obtain ⟨copy, inAttempted, came⟩ := exists_related all member
    exact ⟨copy, among (List.mem_append_left _ inAttempted), came⟩
  | other permitted _ _ ih =>
    exact .call permitted (ih (List.Subset.trans among (List.subset_append_left _ _)))

/-- Right after a fetch its copies are up to date, and so no two are of one entry. -/
theorem Reachable.current (reach : Reachable table r) (x : Transaction) :
    (r.perform table x).Current table (x.fetched table (r.store.perform x).1) where
  among := List.subset_append_right _ _
  distinct := by
    cases fetched : x.fetched table (r.store.perform x).1 with
    | nil => exact .nil
    | cons copy rest =>
      have step := r.store.perform_step x table
      rw [fetched] at step
      obtain ⟨_, _, _, _, _, claims⟩ := step.fetched_of_mem List.mem_cons_self
      exact reach.consistent.fetched_distinct claims
  untouched copy among := reach.untouched_of_fetched among

/-- Of a lone worker's attempts all land that it writes down. -/
theorem Alone.landings (alone : Alone table r held run r') (reach : Reachable table r)
    (room : r'.store.serial ≤ 2 ^ 128) (current : r.Current table held)
    (log : List EntryTransition) :
    r.store.landings table entry.id log run = log ++ r.store.outcomes table entry.id run := by
  have leads := alone.leads current.among
  induction alone generalizing log with
  | done => exact (List.append_nil log).symm
  | @fetch r held x time limit lease rest r' target isFetch alone ih =>
    obtain _ | ⟨permitted, others⟩ := leads
    obtain ⟨landed, silent⟩ := @Store.outcomesOf_of_ne table r.store x entry.id
      fun _ : x.db.outbox.table = table => fun _ found => nomatch isFetch.symm.trans found
    exact Store.landings_cons_eq
      (OutboxRows.renewedBy_of_ne fun _ _ found => nomatch isFetch.symm.trans found)
      (landed.trans silent.symm)
      (fun log => ih (.perform reach permitted) room (reach.current x) log others) log
  | @settle r attempted deferred x transitions rest r' target isApply all alone ih =>
    obtain _ | ⟨permitted, others⟩ := leads
    have distinct := attempted_distinct all (List.pairwise_append.mp current.distinct).1
    have landed : (r.store.rows table).landedBy table entry.id x =
        r.store.outcomesOf table entry.id x :=
      Store.outcomesOf_settled target isApply distinct fun t member => by
        obtain ⟨copy, inAttempted, came⟩ := exists_related all member
        rw [came.id, came.previousAttempts]
        exact current.untouched copy (List.mem_append_left _ inAttempted)
    exact Store.landings_cons_eq
      (OutboxRows.renewedBy_of_ne fun _ _ found => nomatch isApply.symm.trans found) landed
      (fun log => ih (.perform reach permitted) room (.idle _ _) log others) log
  | @other r held x rest r' permitted unsteered alone ih =>
    obtain _ | ⟨_, others⟩ := leads
    have room' := Nat.le_trans others.serial_le room
    have quiet := fun id => @Store.outcomesOf_of_ne table r.store x id
      fun target : x.db.outbox.table = table => fun transitions found => by
        have steers := unsteered target
        rw [found] at steers
        cases steers
    have unrenewed : ∀ id, (r.store.rows table).renewedBy table id x = false := by
      intro id
      unfold OutboxRows.renewedBy
      split
      · rename_i found
        have missed : x.db.outbox.table ≠ table := fun target => by
          have steers := unsteered target
          rw [found] at steers
          cases steers
        rw [decide_eq_false missed, Bool.false_and, Bool.false_and]
      · rfl
    have unsettled : ∀ id, (r.store.rows table).settledBy table id x = 0 := fun id => by
      rw [← OutboxRows.length_landedBy, (quiet id).1, List.length_nil]
    have current' := current.kept reach permitted room' unsettled unrenewed
    exact Store.landings_cons_eq (unrenewed _) ((quiet _).1.trans (quiet _).2.symm)
      (fun log => ih (.perform reach permitted) room current' log others) log

/-- An entry that is there is within its limit. -/
theorem Leads.budget_begun {first : List Transaction} (leads : Leads table {} first r)
    (room : r.store.serial ≤ 2 ^ 128) (member : entry ∈ r.store.rows table) :
    (r.store.rows table).Budget entry (({} : Store).landings table entry.id [] first) := by
  have reach := leads.reachable .empty
  obtain ⟨number, issued, isNumber⟩ := (reach.tracked room).issued entry (.inl member)
  have none : ∀ row ∈ (({} : Relay).store).rows table, row.id = entry.id → row.Accounts [] := by
    have empty : (({} : Relay).store).rows table = [] := by cases table <;> rfl
    rw [empty]
    exact List.forall_mem_nil _
  have accounts := leads.accounts .empty room isNumber (by omega) (fun some => absurd rfl some) none
  have all : ∀ row ∈ r.store.rows table, row.id = entry.id →
      row.Accounts (({} : Store).landings table entry.id [] first) ∧
        row.maxAttempts = entry.maxAttempts := fun row inRows same =>
    ⟨accounts row inRows same,
      congrArg OutboxEntry.maxAttempts (reach.consistent.eq_of_id inRows member same)⟩
  refine ⟨all, ?_⟩
  by_cases pending : entry.status = .pending
  · exact .inl ⟨entry, member, rfl, pending⟩
  · exact .inr ((accounts entry member rfl).conclude pending)

/-- The budget of attempts at an entry. Whatever calls follow, its rows account for exactly the
attempts that landed since it was put in or last made pending again, and there are never more than
its limit. Under a lone worker these are all that its sweeps wrote down. -/
theorem retry_budget {first : List Transaction} (leads : Leads table {} first r)
    (member : entry ∈ r.store.rows table) :
    (∀ rest r', Leads table r rest r' → r'.store.serial ≤ 2 ^ 128 →
      let log := ({} : Store).landings table entry.id [] (first ++ rest)
      (∀ row ∈ r'.store.rows table, row.id = entry.id → row.Accounts log) ∧
        (r'.store.rows table).Spent entry log) ∧
    ∀ run r', entry.status = .pending → entry.attempts = 0 → Alone table r [] run r' →
      r'.store.serial ≤ 2 ^ 128 →
      let log := r.store.outcomes table entry.id run
      (∀ row ∈ r'.store.rows table, row.id = entry.id → row.Accounts log) ∧
        (r'.store.rows table).Spent entry log := by
  have reach := leads.reachable .empty
  have general : ∀ rest r', Leads table r rest r' → r'.store.serial ≤ 2 ^ 128 →
      (r'.store.rows table).Budget entry
        (({} : Store).landings table entry.id [] (first ++ rest)) := by
    intro rest r' later room
    have room' := Nat.le_trans later.serial_le room
    obtain ⟨number, issued, isNumber⟩ := (reach.tracked room').issued entry (.inl member)
    have after := later.budget reach room isNumber issued (leads.budget_begun room' member)
    rwa [leads.store_eq, ← Store.landings_append] at after
  have told : ∀ {rows : OutboxRows} {log : List EntryTransition}, rows.Consistent →
      rows.Budget entry log →
      (∀ row ∈ rows, row.id = entry.id → row.Accounts log) ∧ rows.Spent entry log :=
    fun consistent budget =>
      ⟨fun row inRows same => (budget.accounts row inRows same).1, budget.spent consistent⟩
  constructor
  · intro rest r' later room
    exact told (later.reachable reach).consistent (general rest r' later room)
  · intro run r' pending attempts alone room
    have later := alone.leads (List.nil_subset _)
    have budget := general run r' later room
    have begun := leads.budget_begun (Nat.le_trans later.serial_le room) member
    -- the entry has no attempts behind it, so what landed is what the worker wrote down
    have none : ({} : Store).landings table entry.id [] first = [] := by
      have counted := (begun.accounts entry member rfl).1.counted
      exact List.eq_nil_of_length_eq_zero (by omega)
    have landed : r.store.landings table entry.id [] run = r.store.outcomes table entry.id run :=
      alone.landings reach room (.idle r table) []
    rw [Store.landings_append, none] at budget
    have isStore : ({} : Store).after first = r.store := leads.store_eq.symm
    rw [isStore, landed] at budget
    exact told (later.reachable reach).consistent budget

/-- The theorem about an event with two attempts: the first is refused, the second is not. -/
theorem retry_budget_second_try :
    let time : Int → Instant := fun secs => ⟨1767225600 + secs, 0⟩
    let fetch : Int → Transaction := fun secs =>
      ⟨{}, time secs, .fetchDue (time secs) 20 (Period.ofSeconds 300)⟩
    let emit : Transaction := ⟨{ outbox := { maxAttempts := 2 } }, time 0,
      .emit ⟨"file", "1", "file.stored", none, none⟩⟩
    let r := ({} : Relay).perform .core emit
    let failure : EntryTransition :=
      ⟨Uuid.ofSerial 0, 0, 1, .pending, some (time 61), none, "http://a.test" ++ ": " ++ "HTTP 503"⟩
    let success : EntryTransition :=
      ⟨Uuid.ofSerial 0, 1, 2, .delivered, none, some (time 101), ""⟩
    let run := [fetch 0, ⟨{}, time 1, .applyTransitions [failure]⟩, fetch 100,
      ⟨{}, time 101, .applyTransitions [success]⟩]
    ∃ entry r', Leads .core {} [emit] r ∧ entry ∈ r.store.rows .core ∧ Leads .core r run r' ∧
      Alone .core r [] run r' ∧ r'.store.serial ≤ 2 ^ 128 ∧ entry.status = .pending ∧
      entry.attempts = 0 ∧ ({} : Store).landings .core entry.id [] (emit :: run) =
        [failure, success] ∧ r.store.outcomes .core entry.id run = [failure, success] ∧
      (∀ row ∈ r'.store.rows .core, row.id = entry.id → row.Accounts [failure, success]) ∧
      (r'.store.rows .core).Spent entry [failure, success] := by
  intro time fetch emit r failure success run
  have begun : Leads .core {} [emit] r := .call ⟨nofun, nofun⟩ .done
  have facts : (r.store.rows .core).map (fun e => (e.id, e.attempts, e.status)) =
      [(Uuid.ofSerial 0, 0, .pending)] := by decide +kernel
  obtain ⟨entry, isRows, isEntry⟩ := List.map_eq_singleton_iff.mp facts
  obtain ⟨isId, attempts, pending⟩ : entry.id = Uuid.ofSerial 0 ∧ entry.attempts = 0 ∧
      entry.status = .pending := by simpa only [Prod.mk.injEq] using isEntry
  let r₁ := r.perform .core (fetch 0)
  let r₂ := r₁.perform .core ⟨{}, time 1, .applyTransitions [failure]⟩
  have early : ((fetch 0).fetched .core (r.store.perform (fetch 0)).1).map
      (fun e => (e.id, e.attempts, e.maxAttempts)) = [(Uuid.ofSerial 0, 0, 2)] := by decide +kernel
  have late : ((fetch 100).fetched .core (r₂.store.perform (fetch 100)).1).map
      (fun e => (e.id, e.attempts)) = [(Uuid.ofSerial 0, 1)] := by decide +kernel
  obtain ⟨copy, fetched, isCopy⟩ := List.map_eq_singleton_iff.mp early
  obtain ⟨copy', fetched', isCopy'⟩ := List.map_eq_singleton_iff.mp late
  simp only [Prod.mk.injEq] at isCopy isCopy'
  have delay : ({} : RetryPolicy).delay (fun _ => 0) 1 = .ok (Period.ofSeconds 60) := by
    decide +kernel
  have next : (time 1).add? (Period.ofSeconds 60) = some (time 61) := by decide
  have refused : copy.Attempted failure := by
    obtain ⟨σ, services, endpoints, _, _, posts⟩ := copy.exists_refusal "http://a.test" "HTTP 503"
    refine ⟨σ, services, endpoints, _, _, _, {}, fun _ => 0, time 1, posts, ?_⟩
    simp [RetryPolicy.transition, isCopy, delay, next, failure]
  have taken : copy'.Attempted success := by
    obtain ⟨σ, services, endpoints, _, _, posts⟩ := copy'.exists_success
    refine ⟨σ, services, endpoints, _, _, _, {}, fun _ => 0, time 101, posts, ?_⟩
    simp [RetryPolicy.transition, isCopy', success]
  let r' := (r₂.perform .core (fetch 100)).perform .core
    ⟨{}, time 101, .applyTransitions [success]⟩
  have second : Alone .core (r₂.perform .core (fetch 100)) [copy']
      [⟨{}, time 101, .applyTransitions [success]⟩] r' :=
    @Alone.settle .core _ [copy'] [] _ _ _ _ rfl rfl (.cons taken .nil) .done
  have first : Alone .core r₁ [copy] (run.drop 1) r' :=
    @Alone.settle .core _ [copy] [] _ _ _ _ rfl rfl (.cons refused .nil)
      (.fetch rfl rfl (fetched' ▸ second))
  have alone : Alone .core r [] run r' := .fetch rfl rfl (fetched ▸ first)
  have leads := alone.leads (List.nil_subset _)
  have room : r'.store.serial ≤ 2 ^ 128 := by
    rw [leads.store_eq]
    decide +kernel
  have member : entry ∈ r.store.rows .core := by
    rw [isRows]
    exact List.mem_singleton_self entry
  have landed : ({} : Store).landings .core entry.id [] (emit :: run) = [failure, success] := by
    rw [isId]
    decide +kernel
  have told : r.store.outcomes .core entry.id run = [failure, success] := by
    rw [isId]
    decide +kernel
  obtain ⟨_, lone⟩ := retry_budget begun member
  have budget := lone run r' pending attempts alone room
  rw [told] at budget
  exact ⟨entry, r', begun, member, leads, alone, room, pending, attempts, landed, told, budget⟩

end Relay

end OutboxRelay
