import OutboxRelay.Store.Access

namespace OutboxRelay

theorem hasNull_eq_false_iff {s : String} : hasNull s = false ↔ ∀ c ∈ s.toList, c.toNat ≠ 0 := by
  simp only [hasNull, List.any_eq_false, decide_eq_true_eq, ne_eq]

theorem toNat_ne_zero_of_isDigit {c : Char} (digit : c.isDigit = true) : c.toNat ≠ 0 := by
  intro null
  have isNull : c = Char.ofNat 0 := Char.toNat_inj.mp null
  subst isNull
  exact absurd digit (by decide)

theorem hasNull_toString_nat (n : Nat) : hasNull (toString n) = false := by
  refine hasNull_eq_false_iff.mpr fun c member => ?_
  rw [Nat.toString_eq_repr, Nat.toList_repr] at member
  exact toNat_ne_zero_of_isDigit (Nat.isDigit_of_mem_toDigits (by decide) (by decide) member)

theorem hasNull_append (s t : String) : hasNull (s ++ t) = (hasNull s || hasNull t) := by
  simp only [hasNull, String.toList_append, List.any_append]

theorem hasNull_intercalate {separator : String} {texts : List String}
    (clean : hasNull separator = false) (all : ∀ text ∈ texts, hasNull text = false) :
    hasNull (String.intercalate separator texts) = false := by
  induction texts with
  | nil =>
    rw [String.intercalate_nil]
    decide
  | cons first rest ih =>
    have head := all first List.mem_cons_self
    by_cases last : rest = []
    · rw [last, String.intercalate_singleton, head]
    · rw [String.intercalate_cons_of_ne_nil last, hasNull_append, hasNull_append, head, clean,
        ih fun text member => all text (List.mem_cons_of_mem _ member)]
      rfl

/-- A computation of two parts succeeds if both do. -/
theorem bind_eq_ok_iff {α β : Type} {x : Except Error α} {f : α → Except Error β} {b : β} :
    (x >>= f) = .ok b ↔ ∃ a, x = .ok a ∧ f a = .ok b := by
  cases x with
  | error e => simp [bind, Except.bind]
  | ok a => simp [bind, Except.bind]

/-- It fails where the first part that fails does. -/
theorem bind_eq_error_iff {α β : Type} {x : Except Error α} {f : α → Except Error β} {e : Error} :
    (x >>= f) = .error e ↔ x = .error e ∨ ∃ a, x = .ok a ∧ f a = .error e := by
  cases x with
  | error e => simp [bind, Except.bind]
  | ok a => simp [bind, Except.bind]

namespace OutboxEntry

/-- An entry without all that deliveries, claims and operators change. -/
def fixedPart (e : OutboxEntry) : OutboxEntry :=
  { e with
    status := .pending
    attempts := 0
    nextAttemptAt := none
    deliveredAt := none
    errorMessage := ""
    updatedAt := e.createdAt }

theorem fixedPart_eq_iff {a b : OutboxEntry} :
    a.fixedPart = b.fixedPart ↔
      a.id = b.id ∧ a.aggregateType = b.aggregateType ∧ a.aggregateId = b.aggregateId ∧
        a.eventType = b.eventType ∧ a.payload = b.payload ∧ a.idempotencyKey = b.idempotencyKey ∧
        a.maxAttempts = b.maxAttempts ∧ a.createdAt = b.createdAt ∧
        a.isReadable = b.isReadable := by
  simp only [fixedPart, mk.injEq, true_and]
  constructor
  · rintro ⟨id, type, aggregate, event, payload, key, limit, created, _, readable⟩
    exact ⟨id, type, aggregate, event, payload, key, limit, created, readable⟩
  · rintro ⟨id, type, aggregate, event, payload, key, limit, created, readable⟩
    exact ⟨id, type, aggregate, event, payload, key, limit, created, created, readable⟩

theorem id_of_fixedPart {a b : OutboxEntry} (same : a.fixedPart = b.fixedPart) : a.id = b.id :=
  (fixedPart_eq_iff.mp same).1

/-- What a row that a table has accepted fulfils. -/
theorem fault?_eq_none_iff {e : OutboxEntry} :
    e.fault? = none ↔
      (([e.aggregateType, e.aggregateId, e.eventType, e.idempotencyKey].any hasNull = false ∧
        hasNull e.errorMessage = false) ∧
        fitsInt32 e.attempts = true ∧ fitsInt32 e.maxAttempts = true ∧ e.isLawful = true) := by
  unfold fault?
  split
  · rename_i refused
    simp only [List.any_cons, List.any_nil, Bool.or_eq_true, reduceCtorEq, false_iff] at refused ⊢
    grind
  · rename_i texts
    simp only [List.any_cons, List.any_nil, Bool.or_eq_true, not_or, Bool.not_eq_true] at texts
    split
    · rename_i range
      simp only [Bool.not_eq_true', Bool.and_eq_false_iff] at range
      grind
    · rename_i range
      simp only [Bool.not_eq_true', Bool.not_eq_false, Bool.and_eq_true] at range
      split
      · rename_i check
        simp only [Bool.not_eq_true'] at check
        grind
      · rename_i check
        simp only [Bool.not_eq_true', Bool.not_eq_false] at check
        simp only [List.any_cons, List.any_nil, true_iff]
        grind

/-- A row is refused for what it is, or for what is there already. -/
theorem fault?_ne_unique (e : OutboxEntry) : e.fault? ≠ some .unique := by
  unfold fault?
  split
  · nofun
  · split
    · nofun
    · split <;> nofun

theorem isLawful_iff {e : OutboxEntry} :
    e.isLawful = true ↔
      0 ≤ e.attempts ∧ 0 < e.maxAttempts ∧ (e.status = .pending ↔ e.nextAttemptAt.isSome = true) := by
  unfold isLawful
  by_cases pending : e.status = .pending <;> simp [pending, and_assoc]

end OutboxEntry

namespace OutboxRows

/-! ### Calls on an outbox as functions of its rows -/

/-- Returns the first rows that are due, as they are, and hides them for the time of the lease. -/
def fetchDue (rows : OutboxRows) (now : Instant) (limit : Int) (lease : Period) (clock : Instant) :
    Except Error (List OutboxEntry × OutboxRows) := do
  let claimEnd ← OutboxTable.claimEnd now lease
  let entries ← rows.firstDue now limit clock
  if entries.isEmpty then return (entries, rows)
  else return (entries, ← rows.claimAll entries claimEnd clock)

/-- Gives entries back that were not attempted: their schedule is again what it was. -/
def release (rows : OutboxRows) (entries : List OutboxEntry) (clock : Instant) :
    Except Error (Nat × OutboxRows) :=
  match entries with
  | [] => .ok (0, rows)
  | entry :: rest => do
    let (count, rows) ← rows.giveBackOne entry clock
    let (more, rows) ← release rows rest clock
    return (count + more, rows)

/-- Writes transitions in order. The result names the entries that were still as expected. -/
def applyTransitions (rows : OutboxRows) (transitions : List EntryTransition) (clock : Instant) :
    Except Error (List Uuid × OutboxRows) :=
  match transitions with
  | [] => .ok ([], rows)
  | t :: rest => do
    let (landed, rows) ← rows.applyTransition t clock
    let (ids, rows) ← applyTransitions rows rest clock
    return (if landed then t.id :: ids else ids, rows)

/-- Deletes settled rows from before `cutoff`, at most `limit` of them. -/
def cleanup (rows : OutboxRows) (cutoff : Instant) (limit : Int) :
    Except Error (CleanupStats × OutboxRows) := do
  let total ← rows.countExpired cutoff
  if total = 0 then return (⟨0, 0⟩, rows)
  else
    let (deleted, rows) ← rows.deleteExpired cutoff limit
    return (⟨deleted, total - deleted⟩, rows)

/-- Makes failed entries pending again. -/
def requeueFailed (rows : OutboxRows) (ids : List Uuid) (due clock : Instant) :
    Except Error (Nat × OutboxRows) :=
  if ids.isEmpty then return (0, rows) else rows.renewFailed ids due clock

theorem isUntouched_iff {id : Uuid} {attempts : Int} {row : OutboxEntry} :
    isUntouched id attempts row = true ↔
      row.id = id ∧ row.status = .pending ∧ row.attempts = attempts := by
  simp [isUntouched, and_assoc]

theorem insert_eq_ok_iff {rows rows' : OutboxRows} {entry : OutboxEntry} :
    rows.insert entry = .ok rows' ↔
      entry.fault? = none ∧
        (∀ row ∈ rows, ¬(row.eventType = entry.eventType ∧
          row.idempotencyKey = entry.idempotencyKey)) ∧
        (∀ row ∈ rows, row.id ≠ entry.id) ∧ rows' = rows ++ [entry] := by
  unfold OutboxRows.insert hasKey
  cases entry.fault? with
  | some fault => simp
  | none =>
    simp only [Bool.or_eq_true, List.any_eq_true, Bool.and_eq_true, decide_eq_true_eq, true_and]
    split
    · rename_i taken
      simp only [reduceCtorEq, false_iff]
      grind
    · rename_i free
      simp only [Except.ok.injEq]
      grind

theorem isTaken_iff {rows : OutboxRows} {entry : OutboxEntry} :
    (rows.hasKey entry.eventType entry.idempotencyKey || rows.any (·.id = entry.id)) = true ↔
      ∃ row ∈ rows, row.eventType = entry.eventType ∧ row.idempotencyKey = entry.idempotencyKey ∨
        row.id = entry.id := by
  simp only [hasKey, Bool.or_eq_true, List.any_eq_true, Bool.and_eq_true, decide_eq_true_eq]
  grind

/-- A row that the table could hold is refused for a row with its key or its identifier. -/
theorem insert_eq_unique_iff {rows : OutboxRows} {entry : OutboxEntry} :
    rows.insert entry = .error (.database .unique) ↔
    entry.fault? = none ∧ ∃ row ∈ rows,
      row.eventType = entry.eventType ∧ row.idempotencyKey = entry.idempotencyKey ∨
        row.id = entry.id := by
  rw [← isTaken_iff]
  unfold insert
  cases result : entry.fault? with
  | some fault =>
    have other : fault ≠ .unique := fun same => entry.fault?_ne_unique (same ▸ result)
    simp only [Except.error.injEq, Error.database.injEq, other, reduceCtorEq, false_and]
  | none =>
    cases taken : rows.hasKey entry.eventType entry.idempotencyKey || rows.any (·.id = entry.id) with
    | true => simp only [if_true, true_and]
    | false => simp only [Bool.false_eq_true, if_false, reduceCtorEq, and_false]

theorem insert_eq_error {rows : OutboxRows} {entry : OutboxEntry} {e : Error}
    (refused : rows.insert entry = .error e) :
    ∃ fault, e = .database fault := by
  unfold insert at refused
  split at refused
  · exact ⟨_, (Except.error.inj refused).symm⟩
  · split at refused
    · exact ⟨_, (Except.error.inj refused).symm⟩
    · cases refused

theorem amend_eq_ok_iff {rows rows' : OutboxRows} {selects : OutboxEntry → Bool}
    {change : OutboxEntry → OutboxEntry} {count : Nat} :
    rows.amend selects change = .ok (rows', count) ↔
      (∀ row ∈ rows, selects row = true → (change row).fault? = none) ∧
        rows' = (rows.map fun row => if selects row then change row else row) ∧
        count = (rows.filter selects).length := by
  have faultless : ((rows.filter selects).map change).findSome? OutboxEntry.fault? = none ↔
      ∀ row ∈ rows, selects row = true → (change row).fault? = none := by
    simp only [List.findSome?_eq_none_iff, List.forall_mem_map, List.mem_filter, and_imp]
  unfold amend
  dsimp only
  split
  · rename_i fault found
    simp only [reduceCtorEq, false_iff]
    intro ⟨all, _⟩
    rw [faultless.mpr all] at found
    cases found
  · rename_i none
    have all := faultless.mp none
    simp only [Except.ok.injEq, Prod.mk.injEq]
    grind

theorem mem_due {rows : OutboxRows} {now : Instant} {row : OutboxEntry} :
    row ∈ rows.due now ↔ row ∈ rows ∧ row.isDue now.stored = true := by
  unfold due
  rw [(List.mergeSort_perm _ _).mem_iff, List.mem_filter]

/-- Nothing keeps the first rows that are due from being fetched. -/
structure Fetchable (rows : OutboxRows) (now : Instant) (limit : Int) (claimEnd clock : Instant) :
    Prop where
  nonneg : 0 ≤ limit
  known : now.isKnownAt clock = true
  readable : ∀ row ∈ (rows.due now).take limit.toNat, row.isReadable = true
  ends : (rows.due now).take limit.toNat ≠ [] → claimEnd.isKnownAt clock = true

theorem firstDue_eq_ok_iff {rows : OutboxRows} {now clock : Instant} {limit : Int}
    {entries : List OutboxEntry} :
    rows.firstDue now limit clock = .ok entries ↔
      now.isKnownAt clock = true ∧ 0 ≤ limit ∧ entries = (rows.due now).take limit.toNat ∧
        ∀ row ∈ entries, row.isReadable = true := by
  unfold firstDue
  split
  · rename_i unknown
    simp only [Bool.not_eq_true'] at unknown
    simp [unknown]
  · rename_i known
    simp only [Bool.not_eq_true', Bool.not_eq_false] at known
    split
    · simp only [reduceCtorEq, false_iff]
      rintro ⟨_, nonneg, _⟩
      omega
    · dsimp only
      split <;> simp_all <;> grind

theorem claimAll_eq_ok_iff {rows rows' : OutboxRows} {entries : List OutboxEntry}
    {claimEnd clock : Instant} :
    rows.claimAll entries claimEnd clock = .ok rows' ↔
      claimEnd.isKnownAt clock = true ∧
        rows' = rows.map fun row =>
          if entries.any (·.id = row.id) then claim claimEnd clock row else row := by
  unfold claimAll
  split
  · rename_i known
    simp only [Except.ok.injEq, known, true_and]
    exact eq_comm
  · rename_i early
    simp only [reduceCtorEq, early, false_and]

theorem fetchDue_eq_ok_iff {rows rows' : OutboxRows} {now clock : Instant} {limit : Int}
    {lease : Period} {entries : List OutboxEntry} :
    rows.fetchDue now limit lease clock = .ok (entries, rows') ↔
      ∃ claimEnd, now.add? lease = some claimEnd ∧ Fetchable rows now limit claimEnd clock ∧
        entries = (rows.due now).take limit.toNat ∧
        rows' = rows.map fun row =>
          if entries.any (·.id = row.id) then claim claimEnd clock row else row := by
  unfold fetchDue OutboxTable.claimEnd
  cases now.add? lease with
  | none => simp [bind, Except.bind]
  | some claimEnd =>
    simp only [bind_eq_ok_iff, firstDue_eq_ok_iff, Except.ok.injEq, Option.some.injEq,
      exists_eq_left']
    constructor
    · rintro ⟨_, ⟨known, nonneg, rfl, readable⟩, rest⟩
      split at rest
      · rename_i nothing
        cases rest
        rw [List.isEmpty_iff.mp nothing]
        refine ⟨⟨nonneg, known, readable, fun some => absurd (List.isEmpty_iff.mp nothing) some⟩, rfl, ?_⟩
        exact (List.map_id'' (fun _ => rfl) rows).symm
      · obtain ⟨_, claimed, returned⟩ := bind_eq_ok_iff.mp rest
        obtain ⟨ends, rfl⟩ := claimAll_eq_ok_iff.mp claimed
        cases returned
        exact ⟨⟨nonneg, known, readable, fun _ => ends⟩, rfl, rfl⟩
    · rintro ⟨fetchable, rfl, rfl⟩
      refine ⟨_, ⟨fetchable.known, fetchable.nonneg, rfl, fetchable.readable⟩, ?_⟩
      split
      · rename_i nothing
        rw [List.isEmpty_iff.mp nothing]
        exact congrArg (fun rows => Except.ok ([], rows)) (List.map_id'' (fun _ => rfl) rows).symm
      · rename_i some
        have ends := fetchable.ends fun nothing => some (List.isEmpty_iff.mpr nothing)
        exact bind_eq_ok_iff.mpr ⟨_, claimAll_eq_ok_iff.mpr ⟨ends, rfl⟩, rfl⟩

theorem giveBackOne_eq_ok_iff {rows rows' : OutboxRows} {entry : OutboxEntry} {clock : Instant}
    {count : Nat} :
    rows.giveBackOne entry clock = .ok (count, rows') ↔
      amend rows (isUntouched entry.id entry.attempts) (restore entry clock) =
        .ok (rows', count) := by
  unfold giveBackOne
  rcases amend rows (isUntouched entry.id entry.attempts) (restore entry clock) with _ | ⟨_, _⟩ <;>
    simp [Except.map, and_comm]

theorem release_cons_eq_ok_iff {rows rows' : OutboxRows} {entry : OutboxEntry}
    {rest : List OutboxEntry} {clock : Instant} {count : Nat} :
    rows.release (entry :: rest) clock = .ok (count, rows') ↔
      ∃ between n more,
        amend rows (isUntouched entry.id entry.attempts) (restore entry clock) = .ok (between, n) ∧
        release between rest clock = .ok (more, rows') ∧ count = n + more := by
  simp only [release, bind_eq_ok_iff, giveBackOne_eq_ok_iff, pure, Except.pure, Except.ok.injEq,
    Prod.exists, Prod.mk.injEq]
  grind

/-- What each guarded write of a release keeps, the release keeps. -/
theorem release_preserves {P : OutboxRows → Prop} {rows rows' : OutboxRows}
    {entries : List OutboxEntry} {clock : Instant} {count : Nat}
    (released : rows.release entries clock = .ok (count, rows'))
    (step : ∀ entry ∈ entries, ∀ before after n, P before →
      amend before (isUntouched entry.id entry.attempts) (restore entry clock) = .ok (after, n) →
      P after)
    (begun : P rows) : P rows' := by
  induction entries generalizing rows count with
  | nil =>
    cases released
    exact begun
  | cons entry rest ih =>
    obtain ⟨between, n, more, first, others, _⟩ := release_cons_eq_ok_iff.mp released
    exact ih others (fun other member => step other (List.mem_cons_of_mem _ member))
      (step entry List.mem_cons_self rows between n begun first)

theorem applyTransition_eq_ok_iff {rows rows' : OutboxRows} {t : EntryTransition}
    {clock : Instant} {landed : Bool} :
    rows.applyTransition t clock = .ok (landed, rows') ↔
      hasNull t.errorMessage = false ∧ ∃ count, landed = decide (0 < count) ∧
        amend rows (isUntouched t.id t.previousAttempts) (settle t clock) = .ok (rows', count) := by
  unfold applyTransition
  split
  · rename_i null
    simp only [null, reduceCtorEq, Bool.true_eq_false, false_and]
  · rename_i null
    simp only [bind_eq_ok_iff, pure, Except.pure, Except.ok.injEq, Prod.exists, Prod.mk.injEq]
    grind

theorem applyTransitions_cons_eq_ok_iff {rows rows' : OutboxRows} {t : EntryTransition}
    {rest : List EntryTransition} {clock : Instant} {ids : List Uuid} :
    rows.applyTransitions (t :: rest) clock = .ok (ids, rows') ↔
      ∃ between n more, hasNull t.errorMessage = false ∧
        amend rows (isUntouched t.id t.previousAttempts) (settle t clock) = .ok (between, n) ∧
        applyTransitions between rest clock = .ok (more, rows') ∧
        ids = if 0 < n then t.id :: more else more := by
  simp only [applyTransitions, bind_eq_ok_iff, applyTransition_eq_ok_iff, pure, Except.pure,
    Except.ok.injEq, Prod.exists, Prod.mk.injEq]
  constructor
  · rintro ⟨_, between, ⟨null, n, rfl, amended⟩, more, _, others, rfl, rfl⟩
    exact ⟨between, n, more, null, amended, others, by simp only [decide_eq_true_eq]⟩
  · rintro ⟨between, n, more, null, amended, others, rfl⟩
    exact ⟨_, between, ⟨null, n, rfl, amended⟩, more, rows', others, by
      simp only [decide_eq_true_eq], rfl⟩

/-- What each guarded write of settled attempts keeps, all of them keep. -/
theorem applyTransitions_preserves {P : OutboxRows → Prop} {rows rows' : OutboxRows}
    {transitions : List EntryTransition} {clock : Instant} {ids : List Uuid}
    (settled : rows.applyTransitions transitions clock = .ok (ids, rows'))
    (step : ∀ t ∈ transitions, ∀ before after n, P before →
      amend before (isUntouched t.id t.previousAttempts) (settle t clock) = .ok (after, n) →
      P after)
    (begun : P rows) : P rows' := by
  induction transitions generalizing rows ids with
  | nil =>
    cases settled
    exact begun
  | cons t rest ih =>
    obtain ⟨between, n, more, _, first, others, _⟩ := applyTransitions_cons_eq_ok_iff.mp settled
    exact ih others (fun other member => step other (List.mem_cons_of_mem _ member))
      (step t List.mem_cons_self rows between n begun first)

/-- No batch with a U+0000 in a message is written. -/
theorem clean_of_settled {rows rows' : OutboxRows} {transitions : List EntryTransition}
    {ids : List Uuid} {clock : Instant}
    (settled : rows.applyTransitions transitions clock = .ok (ids, rows')) :
    ∀ t ∈ transitions, hasNull t.errorMessage = false := by
  induction transitions generalizing rows ids with
  | nil => exact List.forall_mem_nil _
  | cons t rest ih =>
    obtain ⟨_, _, _, clean, _, others, _⟩ := applyTransitions_cons_eq_ok_iff.mp settled
    exact List.forall_mem_cons.mpr ⟨clean, ih others⟩

theorem requeueFailed_eq_ok_iff {rows rows' : OutboxRows} {ids : List Uuid} {due clock : Instant}
    {count : Nat} :
    rows.requeueFailed ids due clock = .ok (count, rows') ↔
      (ids ≠ [] → due.isStorable = true) ∧
        amend rows (fun row => ids.contains row.id && row.status = .failed) (renew due clock) =
          .ok (rows', count) := by
  unfold requeueFailed
  split
  · rename_i nothing
    have untouched : rows.filter (fun _ => false) = [] :=
      List.filter_eq_nil_iff.mpr fun _ _ => Bool.false_ne_true
    rw [List.isEmpty_iff.mp nothing, amend_eq_ok_iff]
    simp only [pure, Except.pure, Except.ok.injEq, Prod.mk.injEq, List.contains_nil,
      Bool.false_and, Bool.false_eq_true, if_false, List.map_id', untouched, List.length_nil,
      ne_eq, not_true_eq_false, false_implies, implies_true, true_and]
    grind
  · rename_i some
    rw [renewFailed, List.isEmpty_iff] at *
    split
    · rename_i storable
      simp only [storable, bind_eq_ok_iff, pure, Except.pure, Except.ok.injEq, Prod.exists,
        Prod.mk.injEq, implies_true, true_and]
      grind
    · rename_i early
      simp only [reduceCtorEq, false_iff, not_and]
      exact fun storable => absurd (storable some) early

theorem mem_expired {rows : OutboxRows} {cutoff : Instant} {row : OutboxEntry} :
    row ∈ rows.expired cutoff ↔
      row ∈ rows ∧ row.status.isTerminal = true ∧ row.createdAt.lt cutoff.stored = true := by
  unfold expired
  rw [(List.mergeSort_perm _ _).mem_iff, List.mem_filter, Bool.and_eq_true]

/-- A cleanup deletes by identifier what is among the expired rows. -/
theorem cleanup_eq_ok {rows rows' : OutboxRows} {cutoff : Instant} {limit : Int}
    {stats : CleanupStats} (cleaned : rows.cleanup cutoff limit = .ok (stats, rows')) :
    rows' = rows.filter fun row =>
      !((rows.expired cutoff).take limit.toNat).any (·.id = row.id) := by
  unfold cleanup countExpired at cleaned
  split at cleaned
  · change (if _ then _ else _) = _ at cleaned
    split at cleaned
    · rename_i nothing
      cases cleaned
      rw [List.eq_nil_of_length_eq_zero nothing, List.take_nil]
      exact (List.filter_eq_self.mpr fun _ _ => rfl).symm
    · unfold deleteExpired at cleaned
      split at cleaned
      · cases cleaned
      · cases cleaned
        rfl
  · cases cleaned

end OutboxRows

end OutboxRelay
