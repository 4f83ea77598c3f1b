import OutboxRelay.Proofs.Landing
import OutboxRelay.Proofs.OutboxHistory

namespace OutboxRelay

/-- What a row shows of the attempts at its entry that have landed since it last started from
none. -/
structure OutboxEntry.Accounts (row : OutboxEntry) (log : List EntryTransition) : Prop where
  counted : row.attempts = log.length
  bounded : (log.length : Int) ≤ row.maxAttempts
  raised : ∀ (i : Nat) t, log[i]? = some t → t.previousAttempts = i ∧ t.attempts = i + 1
  failed : row.status = .failed ↔
    (log.length : Int) = row.maxAttempts ∧ ∀ t ∈ log, t.status ≠ .delivered
  delivered : row.status = .delivered ↔ ∃ t, log.getLast? = some t ∧ t.status = .delivered
  pending : row.status = .pending ↔
    (log.length : Int) < row.maxAttempts ∧ ∀ t ∈ log, t.status ≠ .delivered
  first : ∀ t ∈ log.dropLast, t.status ≠ .delivered

namespace OutboxEntry.Accounts
variable {row row' : OutboxEntry} {log : List EntryTransition}

/-- A schedule is no part of the account. -/
theorem congr (accounts : row.Accounts log) (limit : row'.maxAttempts = row.maxAttempts)
    (status : row'.status = row.status) (attempts : row'.attempts = row.attempts) :
    row'.Accounts log where
  counted := attempts.trans accounts.counted
  bounded := limit ▸ accounts.bounded
  raised := accounts.raised
  failed := by rw [status, limit]; exact accounts.failed
  delivered := by rw [status]; exact accounts.delivered
  pending := by rw [status, limit]; exact accounts.pending
  first := accounts.first

/-- The account of a row that starts from no attempts. -/
theorem fresh (pending : row.status = .pending) (attempts : row.attempts = 0)
    (positive : 0 < row.maxAttempts) : row.Accounts [] where
  counted := attempts
  bounded := Int.le_of_lt positive
  raised := nofun
  failed := by
    rw [pending]
    exact ⟨nofun, fun all => absurd all.1 (Int.ne_of_lt positive)⟩
  delivered := by
    rw [pending]
    exact ⟨nofun, nofun⟩
  pending := ⟨fun _ => ⟨positive, List.forall_mem_nil _⟩, fun _ => pending⟩
  first := List.forall_mem_nil _

/-- A landed attempt goes into the account. -/
theorem settle {copy : OutboxEntry} {t : EntryTransition} (accounts : row.Accounts log)
    (attempted : copy.Attempted t) (limit : row.maxAttempts = copy.maxAttempts) (clock : Instant)
    (untouched : OutboxRows.isUntouched t.id t.previousAttempts row = true) :
    (OutboxRows.settle t clock row).Accounts (log ++ [t]) := by
  obtain ⟨_, pending, attempts⟩ := OutboxRows.isUntouched_iff.mp untouched
  obtain ⟨more, failures⟩ := accounts.pending.mp pending
  have counted := accounts.counted
  have length : (log ++ [t]).length = log.length + 1 := List.length_append
  have rises := attempted.counted
  have last : (log ++ [t]).getLast? = some t := List.getLast?_concat
  have all : (∀ t' ∈ log ++ [t], t'.status ≠ .delivered) ↔ t.status ≠ .delivered := by
    rw [List.forall_mem_append, List.forall_mem_singleton, and_iff_right failures]
  have status : t.status = .delivered ∨
      t.status = .failed ∧ row.maxAttempts ≤ t.attempts ∨
        t.status = .pending ∧ t.attempts < row.maxAttempts := by
    obtain ⟨_, _, _, _, _, _, _, _, _, _, made⟩ := attempted
    rw [limit]
    rcases RetryPolicy.transition_cases made with ⟨_, rfl⟩ | ⟨_, _, full, rfl⟩ |
      ⟨_, _, _, _, room, _, _, rfl⟩
    · exact .inl rfl
    · exact .inr (.inl ⟨rfl, full⟩)
    · exact .inr (.inr ⟨rfl, room⟩)
  exact {
    counted := by
      change t.attempts = _
      omega
    bounded := by
      change _ ≤ row.maxAttempts
      omega
    raised := by
      intro i t' at_i
      rw [List.getElem?_append] at at_i
      split at at_i
      · exact accounts.raised i t' at_i
      · obtain ⟨bound, isLast⟩ := List.getElem?_eq_some_iff.mp at_i
        rw [List.getElem_singleton] at isLast
        rw [List.length_singleton] at bound
        subst isLast
        omega
    failed := by
      change t.status = .failed ↔ _ = row.maxAttempts ∧ _
      rw [all]
      rcases status with h | ⟨h, bound⟩ | ⟨h, bound⟩ <;> simp [h] <;> omega
    delivered := by
      change t.status = .delivered ↔ _
      rw [last]
      simp
    pending := by
      change t.status = .pending ↔ _ < row.maxAttempts ∧ _
      rw [all]
      rcases status with h | ⟨h, bound⟩ | ⟨h, bound⟩ <;> simp [h] <;> omega
    first := by rwa [List.dropLast_concat] }

/-- So do all that land in a batch. -/
theorem settles {transitions : List EntryTransition} {copies : List OutboxEntry} {clock : Instant}
    (accounts : row.Accounts log) (settles : row.Settles clock transitions row')
    (attempted : ∀ t ∈ transitions, ∃ copy ∈ copies, copy.Attempted t)
    (copied : ∀ copy ∈ copies, row.id = copy.id → row.fixedPart = copy.fixedPart) :
    row'.Accounts (log ++ transitions) := by
  induction settles generalizing log with
  | done => rwa [List.append_nil]
  | @next row t rest row' untouched _ ih =>
    obtain ⟨copy, held, came⟩ := attempted t List.mem_cons_self
    have same := (OutboxRows.isUntouched_iff.mp untouched).1.trans came.id
    obtain ⟨_, _, _, _, _, _, limit, _⟩ := OutboxEntry.fixedPart_eq_iff.mp (copied copy held same)
    have rest := ih (accounts.settle came limit clock untouched)
      (fun other later => attempted other (List.mem_cons_of_mem _ later)) copied
    rwa [List.append_assoc] at rest

/-- What one call makes of an account. -/
theorem turn {table : OutboxTable} {x : Transaction} {landed : List EntryTransition}
    {renewed : Bool} {copies : List OutboxEntry} (accounts : row.Accounts log)
    (turn : row.Turn table x landed renewed row') (permitted : x.Permitted table copies)
    (copied : ∀ copy ∈ copies, row.id = copy.id → row.fixedPart = copy.fixedPart)
    (positive : 0 < row.maxAttempts) :
    row'.Accounts (if renewed then [] else log ++ landed) := by
  cases turn with
  | kept | claimed | restored =>
    rw [if_neg Bool.false_ne_true, List.append_nil]
    exact accounts.congr rfl rfl rfl
  | settled target isApply sub settles =>
    exact accounts.settles settles
      (fun t landed => permitted.settled _ target isApply t (sub.subset landed)) copied
  | renewed => exact fresh rfl rfl positive

end OutboxEntry.Accounts

namespace OutboxRows
variable {table : OutboxTable} {rows rows' : OutboxRows} {clock : Instant}
  {transitions : List EntryTransition} {ids : List Uuid} {id : Uuid} {x : Transaction}

/-- Only attempts at entries that are there land. -/
theorem exists_of_landing {t : EntryTransition}
    (settled : rows.applyTransitions transitions clock = .ok (ids, rows'))
    (landed : t ∈ rows.landing clock transitions) : ∃ row ∈ rows, row.id = t.id := by
  induction transitions generalizing rows ids with
  | nil => cases landed
  | cons head rest ih =>
    obtain ⟨between, n, more, clean, first, others, rfl⟩ :=
      applyTransitions_cons_eq_ok_iff.mp settled
    have found := amend_pos_iff first
    have earlier : t ∈ between.landing clock rest → ∃ row ∈ rows, row.id = t.id := by
      intro later
      obtain ⟨row, member, same⟩ := ih others later
      obtain ⟨_, rfl, _⟩ := amend_eq_ok_iff.mp first
      obtain ⟨old, inRows, rfl⟩ := List.mem_map.mp member
      refine ⟨old, inRows, ?_⟩
      rw [← same]
      split <;> rfl
    rw [landing_cons rest clean first] at landed
    split at landed
    · rename_i some
      rcases List.mem_cons.mp landed with rfl | later
      · obtain ⟨row, member, untouched⟩ := found.mp some
        exact ⟨row, member, (isUntouched_iff.mp untouched).1⟩
      · exact earlier later
    · exact earlier landed

end OutboxRows

namespace Store
variable {table : OutboxTable} {s : Store} {x : Transaction} {id : Uuid}
  {log : List EntryTransition}

/-- A call that settles an attempt at an entry leaves the entry there. -/
theorem exists_of_landedBy (landed : (s.rows table).landedBy table id x ≠ []) :
    (∃ row ∈ s.rows table, row.id = id) ∧ ∃ row ∈ (s.perform x).2.rows table, row.id = id := by
  have isApply : ∃ transitions, x.call = .applyTransitions transitions := by
    refine Classical.byContradiction fun other => landed (OutboxRows.landedBy_of_ne ?_)
    exact fun transitions found => other ⟨transitions, found⟩
  obtain ⟨transitions, isApply⟩ := isApply
  rcases s.perform_applyTransitions_cases isApply table with ⟨_, none, _⟩ | ⟨ids, target, settled, _⟩
  · exact absurd (OutboxRows.landedBy_eq_nil (none id)) landed
  · simp only [OutboxRows.landedBy, isApply] at landed
    rw [if_pos ⟨target, by rw [settled]; rfl⟩] at landed
    obtain ⟨t, among⟩ := List.exists_mem_of_ne_nil _ landed
    obtain ⟨inLanding, isId⟩ := List.mem_filter.mp among
    obtain ⟨row, member, same⟩ := OutboxRows.exists_of_landing settled inLanding
    have isRow := same.trans (of_decide_eq_true isId)
    obtain ⟨change, rows', spares⟩ := OutboxRows.applyTransitions_spares settled
    refine ⟨⟨row, member, isRow⟩, change row, ?_, ?_⟩
    · rw [rows']
      exact List.mem_map_of_mem member
    · exact (OutboxEntry.id_of_fixedPart (spares row member).1).trans isRow

/-- One call keeps the accounts of an entry, whether it is there already or not. -/
theorem perform_accounts {copies : List OutboxEntry} {number : Nat}
    (consistent : (s.rows table).Consistent) (tracked : (s.rows table).Tracked s.serial copies)
    (permitted : x.Permitted table copies) (room : (s.perform x).2.serial ≤ 2 ^ 128)
    (isNumber : id = Uuid.ofSerial number) (small : number < 2 ^ 128)
    (issued : log ≠ [] → number < s.serial)
    (before : ∀ row ∈ s.rows table, row.id = id → row.Accounts log) :
    (s.logAfter table id log x ≠ [] → number < (s.perform x).2.serial) ∧
      ∀ row ∈ (s.perform x).2.rows table, row.id = id →
        row.Accounts (s.logAfter table id log x) := by
  have rising := s.serial_le_perform x
  have issued' : s.logAfter table id log x ≠ [] → number < s.serial := by
    intro some
    by_cases begun : log = []
    · have landed : (s.rows table).landedBy table id x ≠ [] := by
        intro none
        rw [logAfter, begun, none] at some
        split at some <;> exact some rfl
      obtain ⟨⟨row, member, same⟩, _⟩ := exists_of_landedBy landed
      obtain ⟨number', earlier, isNumber'⟩ := tracked.issued row (.inl member)
      by_cases later : number' < number
      · exact absurd (isNumber'.symm.trans (same.trans isNumber))
          (Uuid.ofSerial_ne later (by omega))
      · omega
    · exact issued begun
  refine ⟨fun some => by have := issued' some; omega, fun row member same => ?_⟩
  rcases s.perform_turn consistent member with
    ⟨number', settings, event, now, after, bound, rfl, accepted⟩ | ⟨old, inRows, turn⟩
  · have none : s.logAfter table id log x = [] := Classical.byContradiction fun some =>
      absurd (isNumber.symm.trans same.symm) (Uuid.ofSerial_ne
        (Nat.lt_of_lt_of_le (issued' some) after) (by omega))
    rw [none]
    have lawful := (OutboxEntry.fault?_eq_none_iff.mp accepted).2.2.2
    exact .fresh rfl rfl (OutboxEntry.isLawful_iff.mp lawful).2.1
  · have isOld := (OutboxEntry.id_of_fixedPart turn.fixedPart).symm.trans same
    rw [same] at turn
    exact (before old inRows isOld).turn turn permitted
      (fun copy held => tracked.copied copy held old inRows) (consistent.lawful inRows).2.1

end Store

namespace Relay
variable {table : OutboxTable} {r r' : Relay} {run : List Transaction} {id : Uuid}
  {log : List EntryTransition}

/-- The accounts of an entry are kept through every run, whether it is there already or not. -/
theorem Leads.accounts {number : Nat} (leads : Leads table r run r') (reach : Reachable table r)
    (room : r'.store.serial ≤ 2 ^ 128) (isNumber : id = Uuid.ofSerial number)
    (small : number < 2 ^ 128) (issued : log ≠ [] → number < r.store.serial)
    (before : ∀ row ∈ r.store.rows table, row.id = id → row.Accounts log) :
    ∀ row ∈ r'.store.rows table, row.id = id →
      row.Accounts (r.store.landings table id log run) := by
  induction leads generalizing log with
  | done => exact before
  | @call r r' x rest permitted others ih =>
    have room' := Nat.le_trans others.serial_le room
    have tracked := reach.tracked (Nat.le_trans (r.store.serial_le_perform x) room')
    obtain ⟨issued', after⟩ := Store.perform_accounts reach.consistent tracked permitted room'
      isNumber small issued before
    exact ih (.perform reach permitted) room issued' after

end Relay

end OutboxRelay
