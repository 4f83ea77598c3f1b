import OutboxRelay.Proofs.LateRelease
import OutboxRelay.Proofs.SweepRun
import OutboxRelay.Transport

namespace OutboxRelay

theorem hasNull_intercalate_iff {separator : String} {texts : List String}
    (clean : hasNull separator = false) :
    hasNull (String.intercalate separator texts) = true ↔ ∃ text ∈ texts, hasNull text = true := by
  constructor
  · intro null
    refine Classical.byContradiction fun none => ?_
    rw [hasNull_intercalate clean fun text member => ?_] at null
    · cases null
    · exact Bool.not_eq_true _ ▸ fun found => none ⟨text, member, found⟩
  · rintro ⟨text, member, null⟩
    induction texts with
    | nil => cases member
    | cons first rest ih =>
      by_cases last : rest = []
      · subst last
        rw [String.intercalate_singleton]
        exact List.mem_singleton.mp member ▸ null
      · rw [String.intercalate_cons_of_ne_nil last, hasNull_append, hasNull_append]
        rcases List.mem_cons.mp member with rfl | later
        · rw [null, Bool.true_or, Bool.true_or]
        · rw [ih later, Bool.or_true]

/-- What a delivery is to leave of an entry. -/
structure Outcome where
  status : OutboxStatus
  attempts : Int
  errorMessage : String
  deriving DecidableEq

/-- What receivers answer: the endpoint and the entry decide, whatever else was sent. -/
abbrev Answers := WebhookEndpoint → OutboxEntry → DeliveryResult

namespace OutboxEntry

def outcome (entry : OutboxEntry) : Outcome := ⟨entry.status, entry.attempts, entry.errorMessage⟩

/-- The requests for an entry. -/
def requests (entry : OutboxEntry) (answers : Answers) (active : List WebhookEndpoint) :
    List Post :=
  (active.filter (·.subscribesTo entry.eventType)).map fun endpoint =>
    ⟨endpoint, entry, answers endpoint entry⟩

/-- What an attempt at an entry is to leave, by the answers to its own requests. -/
def outcomeAfter (entry : OutboxEntry) (answers : Answers) (active : List WebhookEndpoint) :
    Outcome :=
  match Post.verdict (entry.requests answers active) with
  | none => ⟨.delivered, entry.attempts + 1, ""⟩
  | some message =>
    ⟨if entry.maxAttempts ≤ entry.attempts + 1 then .failed else .pending, entry.attempts + 1,
      message⟩

/-- Every attempt counts. -/
theorem outcomeAfter_ne {entry : OutboxEntry} {answers : Answers} {active : List WebhookEndpoint} :
    entry.outcomeAfter answers active ≠ entry.outcome := by
  intro same
  have counted := congrArg Outcome.attempts same
  unfold outcomeAfter outcome at counted
  split at counted <;>
  · simp only at counted
    omega

/-- An endpoint refuses the entry with a text that no table stores. -/
def Poisoned (entry : OutboxEntry) (answers : Answers) (active : List WebhookEndpoint) : Prop :=
  ∃ post ∈ entry.requests answers active, post.result.ok = false ∧ hasNull post.complaint = true

theorem poisoned_iff {entry : OutboxEntry} {answers : Answers} {active : List WebhookEndpoint} :
    entry.Poisoned answers active ↔
      hasNull (entry.outcomeAfter answers active).errorMessage = true := by
  have found : entry.Poisoned answers active ↔
      ∃ text ∈ Post.complaints (entry.requests answers active), hasNull text = true := by
    simp only [Poisoned, Post.complaints, List.mem_map, List.mem_filter, Bool.not_eq_true']
    constructor
    · rintro ⟨post, sent, refused, null⟩
      exact ⟨_, ⟨post, ⟨sent, refused⟩, rfl⟩, null⟩
    · rintro ⟨_, ⟨post, ⟨sent, refused⟩, rfl⟩, null⟩
      exact ⟨post, sent, refused, null⟩
  rw [found, outcomeAfter, ← hasNull_intercalate_iff (by decide : hasNull "; " = false)]
  rcases Post.verdict_cases (entry.requests answers active) with ⟨verdict, none⟩ | ⟨verdict, _⟩ <;>
    rw [verdict]
  rw [none, String.intercalate_nil]

end OutboxEntry

def EntryTransition.outcome (t : EntryTransition) : Outcome := ⟨t.status, t.attempts, t.errorMessage⟩

theorem RetryPolicy.transition_outcome {policy : RetryPolicy} {draw : Int → Int}
    {entry : OutboxEntry} {answers : Answers} {active : List WebhookEndpoint} {now : Instant}
    {t : EntryTransition}
    (made : policy.transition draw entry (Post.verdict (entry.requests answers active)) now =
      .ok t) : t.outcome = entry.outcomeAfter answers active := by
  unfold OutboxEntry.outcomeAfter
  rcases transition_cases made with ⟨verdict, rfl⟩ | ⟨message, verdict, last, rfl⟩ |
    ⟨message, _, _, verdict, more, _, _, rfl⟩ <;> rw [verdict]
  · rfl
  · rw [if_pos last]
    rfl
  · rw [if_neg (by omega)]
    rfl

/-- What a delivery has left of an entry that is there. -/
def OutboxRows.outcomeOf (rows : OutboxRows) (id : Uuid) : Option Outcome :=
  (rows.get? id).map OutboxEntry.outcome

theorem OutboxRows.outcomeOf_of_mem {rows : OutboxRows} {row : OutboxEntry} {id : Uuid}
    (distinct : rows.Pairwise fun a b => a.id ≠ b.id) (member : row ∈ rows) (same : row.id = id) :
    rows.outcomeOf id = some row.outcome := by
  rw [outcomeOf, get?_of_mem distinct member same, Option.map_some]

namespace Circumstances
variable {c : Circumstances} {config : DeliveryConfig} {answers : Answers}
  {active : List WebhookEndpoint}

/-- Each answer depends on the endpoint and the entry alone. -/
def AnswersBy (c : Circumstances) (answers : Answers) : Prop :=
  ∀ posts endpoint entry, c.answer posts endpoint entry = answers endpoint entry

/-- There is time for the entry of a number, as there is for all before it. -/
def Starts (c : Circumstances) (config : DeliveryConfig) (k : Nat) : Prop :=
  ∀ i ≤ k, (c.elapsed i).nanos < config.softLimit.nanos

theorem AnswersBy.exchange (by_answers : c.AnswersBy answers) (entry : OutboxEntry)
    (before : List Post) (endpoints : List WebhookEndpoint) :
    c.exchange entry before endpoints =
      endpoints.map fun endpoint => ⟨endpoint, entry, answers endpoint entry⟩ := by
  induction endpoints generalizing before with
  | nil => rfl
  | cons endpoint rest ih =>
    rw [Circumstances.exchange, List.map_cons, ih, by_answers]

namespace Attempts
variable {sweep : DeliverySweep} {k : Nat} {before posts : List Post}
  {entries : List OutboxEntry} {transitions : List EntryTransition}

/-- Each transition is decided by the answers to the requests for its own entry. -/
theorem outcome_at (by_answers : c.AnswersBy answers)
    (attempts : c.Attempts sweep active k before entries transitions posts) {i : Nat}
    {t : EntryTransition} {entry : OutboxEntry} (settled : transitions[i]? = some t)
    (taken : entries[i]? = some entry) :
    t.id = entry.id ∧ t.outcome = entry.outcomeAfter answers active := by
  induction attempts generalizing i with
  | finished => cases settled
  | stopped _ => cases settled
  | started _ sends made _ ih =>
    cases i with
    | zero =>
      cases settled
      cases taken
      rw [← sends, by_answers.exchange] at made
      exact ⟨(RetryPolicy.transition_id made).1, RetryPolicy.transition_outcome made⟩
    | succ i => exact ih settled taken

/-- The entries that a sweep attempts are those that there is time for. -/
theorem started_iff (attempts : c.Attempts { config } active 0 [] entries transitions posts)
    {i : Nat} (bound : i < entries.length) : i < transitions.length ↔ c.Starts config i := by
  constructor
  · intro attempted j earlier
    have inTime := attempts.in_time j (by omega)
    rwa [Nat.zero_add] at inTime
  · intro starts
    refine Nat.lt_of_not_le fun fewer => ?_
    have late := attempts.out_of_time (by omega)
    rw [Nat.zero_add] at late
    exact absurd (starts _ fewer) (Nat.not_lt.mpr late)

end Attempts

section
variable {rows claimed : OutboxRows} {time clock claimEnd : Instant} {limit : Int} {lease : Period}
  {fetched : List OutboxEntry} {transitions : List EntryTransition} {posts : List Post}

open OutboxRows in
/-- A batch that is written back: attempted entries are as their own answers have it, and the others
have their schedules. -/
theorem outcome_written (consistent : rows.Consistent)
    (claims : rows.fetchDue time limit lease clock = .ok (fetched, claimed))
    (by_answers : c.AnswersBy answers)
    (attempts : c.Attempts { config } active 0 [] fetched transitions posts)
    (all : List.Forall₂ OutboxEntry.Attempted (fetched.take transitions.length) transitions)
    (settling giving : Instant) {k : Nat} {entry : OutboxEntry}
    (at_k : fetched[k]? = some entry) :
    let rows' := claimed.writtenBack transitions (fetched.drop transitions.length) settling giving
    (c.Starts config k → rows'.outcomeOf entry.id = some (entry.outcomeAfter answers active)) ∧
      (¬c.Starts config k → rows'.scheduleOf entry.id = entry.nextAttemptAt) := by
  intro rows'
  obtain ⟨claimEnd, ends, _⟩ := fetchDue_eq_ok_iff.mp claims
  have bound : k < fetched.length := (List.getElem?_eq_some_iff.mp at_k).1
  rw [← List.take_append_drop transitions.length fetched] at claims
  have distinct : rows'.Pairwise fun a b => a.id ≠ b.id := by
    have ids := consistent.ids
    rw [← List.pairwise_map (f := fun row : OutboxEntry => row.id) (R := (· ≠ ·))] at ids ⊢
    rwa [writtenBack_ids claims]
  rw [← attempts.started_iff bound]
  constructor
  · intro started
    have settled := List.getElem?_eq_getElem started
    obtain ⟨isEntry, outcome⟩ := attempts.outcome_at by_answers settled at_k
    have inTake : entry ∈ fetched.take transitions.length :=
      List.mem_of_getElem? ((List.getElem?_take_of_lt started).trans at_k)
    have member : settle transitions[k] settling (claim claimEnd clock entry) ∈ rows' :=
      consistent.attempted_mem claims ends all inTake (List.getElem_mem started) isEntry
    exact (outcomeOf_of_mem distinct member rfl).trans (congrArg some outcome)
  · intro deferred
    have inDrop : entry ∈ fetched.drop transitions.length := by
      refine List.mem_of_getElem? (i := k - transitions.length) ?_
      rw [List.getElem?_drop, ← at_k]
      congr 1
      omega
    have member : ({ entry with updatedAt := giving } : OutboxEntry) ∈ rows' :=
      consistent.deferred_mem claims all inDrop
    have schedule := scheduleOf_of_mem distinct member rfl
    exact schedule

/-- A message of a batch has a U+0000 if an answer to one of its entries has. -/
theorem messages_iff (by_answers : c.AnswersBy answers)
    (attempts : c.Attempts { config } active 0 [] fetched transitions posts) :
    (∃ t ∈ transitions, hasNull t.errorMessage = true) ↔
      ∃ k entry, fetched[k]? = some entry ∧ c.Starts config k ∧ entry.Poisoned answers active := by
  constructor
  · rintro ⟨t, member, null⟩
    obtain ⟨k, started, isT⟩ := List.mem_iff_getElem.mp member
    have bound : k < fetched.length := Nat.lt_of_lt_of_le started attempts.length_le
    have at_k := List.getElem?_eq_getElem bound
    have outcome := (attempts.outcome_at by_answers (List.getElem?_eq_getElem started) at_k).2
    refine ⟨k, fetched[k], at_k, (attempts.started_iff bound).mp started,
      OutboxEntry.poisoned_iff.mpr ?_⟩
    rw [← outcome, isT]
    exact null
  · rintro ⟨k, entry, at_k, starts, poisoned⟩
    have bound : k < fetched.length := (List.getElem?_eq_some_iff.mp at_k).1
    have started := (attempts.started_iff bound).mpr starts
    have outcome := (attempts.outcome_at by_answers (List.getElem?_eq_getElem started) at_k).2
    have null := OutboxEntry.poisoned_iff.mp poisoned
    rw [← outcome] at null
    exact ⟨transitions[k], List.getElem_mem started, null⟩

end

open OutboxRows in
/-- What a sweep leaves of a batch. -/
theorem sweep_batch {s : Site Course} {table : OutboxTable} {serial : Nat}
    {copies : List OutboxEntry} {claimEnd : Instant} (fresh : s.others = {})
    (consistent : (s.store.rows table).Consistent)
    (tracked : (s.store.rows table).Tracked serial copies)
    (readable : (s.store.rows table).Readable)
    (ends : c.claimEnd? config = some claimEnd) (nonneg : 0 ≤ config.batchSize)
    (by_answers : c.AnswersBy answers) (room : c.LeavesRoom) :
    let active := EndpointRows.listActive s.store.tables.endpoints
    let fetched := ((s.store.rows table).due (c.clock 0)).take config.batchSize.toNat
    let rows := (c.sweep table config s).2.store.rows table
    ((∀ k entry, fetched[k]? = some entry → c.Starts config k → ¬entry.Poisoned answers active) ∧
      ∀ k entry, fetched[k]? = some entry →
        (c.Starts config k → rows.outcomeOf entry.id = some (entry.outcomeAfter answers active)) ∧
        (¬c.Starts config k → rows.scheduleOf entry.id = entry.nextAttemptAt)) ∨
    ((∃ k entry, fetched[k]? = some entry ∧ c.Starts config k ∧ entry.Poisoned answers active) ∧
      ∀ entry ∈ fetched, rows.outcomeOf entry.id = some entry.outcome ∧
        rows.scheduleOf entry.id = some claimEnd.stored) := by
  intro active fetched rows
  have isEnd := ends
  obtain ⟨lease, spans, ends⟩ := Option.bind_eq_some_iff.mp ends
  obtain ⟨claimed, claims⟩ : ∃ claimed, (s.store.rows table).fetchDue (c.clock 0) config.batchSize
      lease (c.clock 0) = .ok (fetched, claimed) :=
    ⟨_, fetchDue_eq_ok_iff.mpr ⟨claimEnd, ends, readable.fetchable nonneg
      (Instant.isKnownAt_self _) (Instant.isKnownAt_of_lt (claimEnd?_later isEnd)), rfl, rfl⟩⟩
  obtain ⟨transitions, t, run, store, attempts, all⟩ :=
    run_batch fresh consistent tracked spans claims room
  · have left : t.store.rows table = claimed := by
      rw [store]
      exact Site.rows_withRows _ _ _
    have poison := messages_iff by_answers attempts
    by_cases null : ∃ t ∈ transitions, hasNull t.errorMessage = true
    · refine .inr ⟨poison.mp null, fun entry taken => ?_⟩
      have isRows : rows = claimed := by
        change (c.sweep table config s).2.store.rows table = claimed
        rw [run, writeBack_refused consistent tracked claims all null left, left]
      have member := consistent.claim_mem claims ends taken
      have distinct := (consistent.fetchDue claims).ids
      have outcome := outcomeOf_of_mem distinct member rfl
      have schedule := scheduleOf_of_mem distinct member rfl
      rw [isRows]
      exact ⟨outcome, schedule⟩
    · have messages : ∀ t ∈ transitions, hasNull t.errorMessage = false := fun t member =>
        Bool.not_eq_true _ ▸ fun found => null ⟨t, member, found⟩
      have isRows : rows = claimed.writtenBack transitions (fetched.drop transitions.length)
          t.clock t.clock := by
        change (c.sweep table config s).2.store.rows table = _
        rw [run, writeBack_run consistent tracked claims all messages left]
        exact Site.rows_withRows _ _ _
      rw [isRows]
      refine .inl ⟨fun k entry at_k starts poisoned => ?_, fun k entry at_k =>
        outcome_written consistent claims by_answers attempts all _ _ at_k⟩
      exact null (poison.mpr ⟨k, entry, at_k, starts, poisoned⟩)

end Circumstances

/-- The rows without all that is due, one entry apart. -/
def OutboxRows.alone (rows : OutboxRows) (now : Instant) (entry : OutboxEntry) : OutboxRows :=
  rows.filter fun row => !row.isDue now.stored || row.id = entry.id

namespace OutboxRows
variable {rows : OutboxRows} {now : Instant} {entry : OutboxEntry}

theorem alone_sublist : (rows.alone now entry).Sublist rows := List.filter_sublist

theorem filter_of_distinct (distinct : rows.Pairwise fun a b => a.id ≠ b.id)
    (member : entry ∈ rows) : rows.filter (fun row => row.id = entry.id) = [entry] := by
  induction rows with
  | nil => cases member
  | cons row rest ih =>
    obtain ⟨different, distinct⟩ := List.pairwise_cons.mp distinct
    rcases List.mem_cons.mp member with rfl | later
    · rw [List.filter_cons_of_pos (by simp only [decide_true]), List.filter_eq_nil_iff.mpr]
      intro other inRest
      simpa only [decide_eq_true_eq] using (different other inRest).symm
    · rw [List.filter_cons_of_neg, ih distinct later]
      simpa only [decide_eq_true_eq] using different entry later

theorem due_alone (distinct : rows.Pairwise fun a b => a.id ≠ b.id) (due : entry ∈ rows.due now) :
    (rows.alone now entry).due now = [entry] := by
  obtain ⟨member, isDue⟩ := mem_due.mp due
  have only : (rows.alone now entry).filter (·.isDue now.stored) = [entry] := by
    rw [alone, List.filter_filter, ← filter_of_distinct distinct member]
    refine List.filter_congr fun row inRows => ?_
    by_cases same : row.id = entry.id
    · simp only [eq_of_distinct distinct inRows member same, isDue, decide_true, Bool.or_true,
        Bool.and_true]
    · simp only [same, decide_false, Bool.or_false, Bool.and_not_self]
  rw [OutboxRows.due, only, List.mergeSort_singleton]

end OutboxRows

/-- A site where nothing is due but one entry. -/
def Site.alone (s : Site Course) (table : OutboxTable) (now : Instant) (entry : OutboxEntry) :
    Site Course :=
  s.withRows table ((s.store.rows table).alone now entry)

namespace Circumstances
variable {c : Circumstances} {config : DeliveryConfig} {answers : Answers} {s : Site Course}
  {table : OutboxTable} {serial : Nat} {copies : List OutboxEntry} {claimEnd : Instant}

theorem claimEnd?_congr {c' : Circumstances} (begins : c'.clock 0 = c.clock 0) :
    c'.claimEnd? config = c.claimEnd? config := by
  rw [claimEnd?, claimEnd?, begins]

/-- What a sweep at the same time leaves of an entry that alone is due. -/
theorem sweep_alone {c' : Circumstances} (fresh : s.others = {})
    (consistent : (s.store.rows table).Consistent)
    (tracked : (s.store.rows table).Tracked serial copies)
    (readable : (s.store.rows table).Readable)
    (ends : c.claimEnd? config = some claimEnd) {entry : OutboxEntry}
    (taken : entry ∈ ((s.store.rows table).due (c.clock 0)).take config.batchSize.toNat)
    (begins : c'.clock 0 = c.clock 0) (by_answers : c'.AnswersBy answers)
    (room : c'.LeavesRoom) (starts : c'.Starts config 0) :
    let active := EndpointRows.listActive s.store.tables.endpoints
    let rows := (c'.sweep table config (s.alone table (c.clock 0) entry)).2.store.rows table
    (¬entry.Poisoned answers active →
      rows.outcomeOf entry.id = some (entry.outcomeAfter answers active)) ∧
    (entry.Poisoned answers active → rows.outcomeOf entry.id = some entry.outcome) := by
  intro active rows
  have positive : 0 < config.batchSize.toNat := by
    refine Nat.pos_of_ne_zero fun none => ?_
    rw [none, List.take_zero] at taken
    cases taken
  let t := s.alone table (c.clock 0) entry
  have isAlone : t.store.rows table = (s.store.rows table).alone (c.clock 0) entry :=
    Site.rows_withRows _ _ _
  have only : (t.store.rows table).due (c'.clock 0) = [entry] := by
    rw [isAlone, begins]
    exact OutboxRows.due_alone consistent.ids (List.mem_of_mem_take taken)
  have consistent' : (t.store.rows table).Consistent :=
    isAlone ▸ consistent.sublist OutboxRows.alone_sublist
  have tracked' : (t.store.rows table).Tracked serial copies :=
    isAlone ▸ tracked.sublist OutboxRows.alone_sublist
  have readable' : (t.store.rows table).Readable := isAlone ▸ fun row member =>
    readable row (OutboxRows.alone_sublist.subset member)
  have batch := sweep_batch (show t.others = {} from fresh) consistent' tracked' readable'
    ((claimEnd?_congr begins).trans ends) (by omega) by_answers room
  have endpoints : t.store.tables.endpoints = s.store.tables.endpoints :=
    Site.endpoints_withRows _ _ _
  rw [only, List.take_of_length_le positive, endpoints] at batch
  rcases batch with ⟨clean, left⟩ | ⟨⟨k, other, at_k, _, poisoned⟩, left⟩
  · exact ⟨fun _ => (left 0 entry rfl).1 starts, fun poisoned =>
      absurd poisoned (clean 0 entry rfl starts)⟩
  · have isEntry := List.mem_singleton.mp (List.mem_of_getElem? at_k)
    subst isEntry
    exact ⟨fun clean => absurd poisoned clean, fun _ =>
      (left other (List.mem_singleton_self other)).1⟩

/-- No answer to a request for one entry matters to another. The sweep leaves of each entry that it
attempts what any sweep at the same time leaves of it if nothing else is due, and each other entry
has its schedule. -/
def SparesBatch (c : Circumstances) (config : DeliveryConfig) (table : OutboxTable)
    (s : Site Course) (answers : Answers) : Prop :=
  let rows := s.store.rows table
  let after (c : Circumstances) (s : Site Course) := (c.sweep table config s).2.store.rows table
  ∀ k entry, ((rows.due (c.clock 0)).take config.batchSize.toNat)[k]? = some entry →
    (c.Starts config k → ∀ c' : Circumstances, c'.AnswersBy answers → c'.LeavesRoom →
      c'.clock 0 = c.clock 0 → c'.Starts config 0 →
      (after c s).outcomeOf entry.id =
        (after c' (s.alone table (c.clock 0) entry)).outcomeOf entry.id) ∧
    (¬c.Starts config k → (after c s).scheduleOf entry.id = rows.scheduleOf entry.id)

/-- When one receiver cannot spoil a batch: exactly if no attempted entry is refused with a text that
has a U+0000, or if all entries are attempted and refused so. One such text undoes the attempts at
all others, and nothing is given back. -/
theorem sparesBatch_iff {r : Relay} (reach : Relay.Reachable table r)
    (few : r.store.serial ≤ 2 ^ 128) (same : s.store.rows table = r.store.rows table)
    (fresh : s.others = {}) (ends : c.claimEnd? config = some claimEnd)
    (nonneg : 0 ≤ config.batchSize) (by_answers : c.AnswersBy answers) (room : c.LeavesRoom) :
    let active := EndpointRows.listActive s.store.tables.endpoints
    let fetched := ((s.store.rows table).due (c.clock 0)).take config.batchSize.toNat
    c.SparesBatch config table s answers ↔
      (∀ k entry, fetched[k]? = some entry → c.Starts config k →
        ¬entry.Poisoned answers active) ∨
      ∀ k entry, fetched[k]? = some entry →
        c.Starts config k ∧ entry.Poisoned answers active := by
  intro active fetched
  have consistent : (s.store.rows table).Consistent := same ▸ reach.consistent
  have tracked : (s.store.rows table).Tracked r.store.serial r.copies := same ▸ reach.tracked few
  have readable : (s.store.rows table).Readable := same ▸ reach.readable
  have batch := sweep_batch fresh consistent tracked readable ends nonneg by_answers room
  have scheduled : ∀ {k : Nat} {entry : OutboxEntry}, fetched[k]? = some entry →
      (s.store.rows table).scheduleOf entry.id = entry.nextAttemptAt := fun at_k =>
    OutboxRows.scheduleOf_of_mem consistent.ids
      (OutboxRows.mem_due.mp (List.mem_of_mem_take (List.mem_of_getElem? at_k))).1 rfl
  constructor
  · intro spared
    rcases batch with ⟨clean, _⟩ | ⟨_, left⟩
    · exact .inl clean
    refine .inr fun k entry at_k => ?_
    obtain ⟨outcome, schedule⟩ := left entry (List.mem_of_getElem? at_k)
    obtain ⟨attempted, kept⟩ := spared k entry at_k
    have starts : c.Starts config k := by
      refine Classical.byContradiction fun late => ?_
      -- the entry was due at the fetch, and now it is not due before the claim ends
      have due := (OutboxRows.mem_due.mp (List.mem_of_mem_take (List.mem_of_getElem? at_k))).2
      have claimed := (schedule.symm.trans (kept late)).trans (scheduled at_k)
      exact Instant.lt_iff.mp (claimEnd?_later ends)
        (OutboxRows.next_le_of_isDue due claimed.symm)
    refine ⟨starts, Classical.byContradiction fun clean => ?_⟩
    have first : c.Starts config 0 := fun i earlier => starts i (by omega)
    have delivered := (sweep_alone fresh consistent tracked readable ends (List.mem_of_getElem? at_k) rfl
      by_answers room first).1 clean
    rw [← attempted starts c by_answers room rfl first, outcome] at delivered
    exact OutboxEntry.outcomeAfter_ne (Option.some.inj delivered).symm
  · intro even k entry at_k
    rcases even with clean | poisoned
    · have left := (batch.resolve_right fun ⟨⟨k, entry, at_k, starts, poisoned⟩, _⟩ =>
        clean k entry at_k starts poisoned).2 k entry at_k
      refine ⟨fun starts c' by_answers' room' begins starts' => ?_, fun late =>
        (left.2 late).trans (scheduled at_k).symm⟩
      have alone := (sweep_alone fresh consistent tracked readable ends (List.mem_of_getElem? at_k) begins
        by_answers' room' starts').1 (clean k entry at_k starts)
      exact (left.1 starts).trans alone.symm
    · obtain ⟨starts, isPoisoned⟩ := poisoned k entry at_k
      have left := (batch.resolve_left fun ⟨clean, _⟩ =>
        clean k entry at_k starts isPoisoned).2 entry (List.mem_of_getElem? at_k)
      refine ⟨fun _ c' by_answers' room' begins starts' => ?_, fun late => absurd starts late⟩
      have alone := (sweep_alone fresh consistent tracked readable ends (List.mem_of_getElem? at_k) begins
        by_answers' room' starts').2 isPoisoned
      exact left.1.trans alone.symm

/-- The theorem about two events for one receiver, which refuses the first with the body `a`, U+0000,
`b` and takes the second. -/
theorem sparesBatch_iff_null :
    let time : Instant := ⟨1767225600, 0⟩
    let emit : String → Transaction := fun id =>
      ⟨{}, time, .emit ⟨"file", id, "file.stored", none, none⟩⟩
    let r := (({} : Relay).perform .core (emit "1")).perform .core (emit "2")
    let endpoints : List WebhookEndpoint :=
      [⟨Uuid.ofSerial 2, "http://a.test", "secret", [], true, time, time⟩]
    let s : Site Course :=
      { store := { r.store with tables := { r.store.tables with endpoints } }
        clock := time
        others := {} }
    let answers : Answers := fun _ entry =>
      if entry.aggregateId = "1" then resultOfResponse {} ⟨500, [], some [97, 0, 98]⟩
      else .success 200
    let c : Circumstances := ⟨fun _ => time, fun _ => ⟨0⟩, fun _ _ => 0, fun _ => answers⟩
    Relay.Reachable .core r ∧ r.store.serial ≤ 2 ^ 128 ∧
      s.store.rows .core = r.store.rows .core ∧ s.others = {} ∧
      c.claimEnd? {} = some ⟨1767225900, 0⟩ ∧ (0 : Int) ≤ ({} : DeliveryConfig).batchSize ∧
      c.AnswersBy answers ∧ c.LeavesRoom ∧ ¬c.SparesBatch {} .core s answers := by
  intro time emit r endpoints s answers c
  have reach : Relay.Reachable .core r := .perform (.perform .empty ⟨nofun, nofun⟩) ⟨nofun, nofun⟩
  have few : r.store.serial ≤ 2 ^ 128 := by decide +kernel
  have same : s.store.rows .core = r.store.rows .core := r.store.rows_endpoints endpoints .core
  have ends : c.claimEnd? {} = some ⟨1767225900, 0⟩ := by decide +kernel
  have by_answers : c.AnswersBy answers := fun _ _ _ => rfl
  have room : c.LeavesRoom := leavesRoom_of_early fun _ => (by decide : time.nanos < nanosPerSecond ∧
    Instant.minSecs ≤ time.secs ∧ time.secs + 3960 ≤ Instant.maxSecs)
  refine ⟨reach, few, same, rfl, ends, by decide, by_answers, room, fun spared => ?_⟩
  let active := EndpointRows.listActive s.store.tables.endpoints
  have poison : (s.store.rows .core).map (fun entry =>
      (entry.isDue time.stored, hasNull (entry.outcomeAfter answers active).errorMessage)) =
      [(true, true), (true, false)] := by decide +kernel
  have starts : ∀ k, c.Starts {} k := fun _ _ _ => (by decide : 0 < 200 * 1000000000)
  have inBatch : ∀ null, (true, null) ∈ [(true, true), (true, false)] →
      ∃ (k : Nat) (entry : OutboxEntry),
        (((s.store.rows .core).due (c.clock 0)).take 20)[k]? = some entry ∧
          hasNull (entry.outcomeAfter answers active).errorMessage = null := by
    intro null among
    rw [← poison] at among
    obtain ⟨entry, member, facts⟩ := List.mem_map.mp among
    obtain ⟨due, isNull⟩ := Prod.mk.inj facts
    rw [List.take_of_length_le (by rw [OutboxRows.due, List.length_mergeSort]; decide +kernel)]
    obtain ⟨k, at_k⟩ := List.mem_iff_getElem?.mp (OutboxRows.mem_due.mpr ⟨member, due⟩)
    exact ⟨k, entry, at_k, isNull⟩
  obtain ⟨k, first, at_k, bad⟩ := inBatch true (by decide)
  obtain ⟨l, second, at_l, good⟩ := inBatch false (by decide)
  rcases (sparesBatch_iff reach few same rfl ends (by decide) by_answers room).mp spared with
    clean | poisoned
  · exact clean k first at_k (starts k) (OutboxEntry.poisoned_iff.mpr bad)
  · have null := OutboxEntry.poisoned_iff.mp (poisoned l second at_l).2
    exact absurd (null.symm.trans good) (by decide)

end Circumstances

end OutboxRelay
