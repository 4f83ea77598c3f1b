import OutboxRelay.Proofs.BatchWrites
import OutboxRelay.Proofs.Ordering
import OutboxRelay.Proofs.RelayRun
import OutboxRelay.Proofs.Settlement

namespace OutboxRelay

namespace Site
variable {τ α : Type}

/-- A site after a write to an outbox table. -/
def withRows (s : Site τ) (table : OutboxTable) (rows : OutboxRows) : Site τ :=
  { s with store := { s.store with tables := s.store.tables.setOutbox table rows } }

@[simp] theorem rows_withRows (s : Site τ) (table : OutboxTable) (rows : OutboxRows) :
    (s.withRows table rows).store.rows table = rows :=
  Tables.outbox_setOutbox _ _ _

theorem withRows_withRows (s : Site τ) (table : OutboxTable) (rows rows' : OutboxRows) :
    (s.withRows table rows).withRows table rows' = s.withRows table rows' := by
  cases table <;> rfl

theorem withRows_rows (s : Site τ) (table : OutboxTable) :
    s.withRows table (s.store.rows table) = s := by
  cases table <;> rfl

@[simp] theorem endpoints_withRows (s : Site τ) (table : OutboxTable) (rows : OutboxRows) :
    (s.withRows table rows).store.tables.endpoints = s.store.tables.endpoints := by
  cases table <;> rfl

theorem store_withRows_congr {s t : Site τ} (same : s.store = t.store) (table : OutboxTable)
    (rows : OutboxRows) : (s.withRows table rows).store = (t.withRows table rows).store := by
  unfold withRows
  rw [same]

/-- A call that does to the rows of a table what `operation` does at the time of the clock. -/
structure WritesRows (call : Sweep (Site τ) α) (table : OutboxTable)
    (operation : OutboxRows → Instant → Except Error (α × OutboxRows)) : Prop where
  ok : ∀ {s : Site τ} {a : α} {rows : OutboxRows},
    operation (s.store.rows table) s.clock = .ok (a, rows) →
    call.run s = (.ok a, s.withRows table rows)
  error : ∀ {s : Site τ} {e : Error}, operation (s.store.rows table) s.clock = .error e →
    call.run s = (.error e, s)

theorem writesRows {table : OutboxTable} (operations : Instant → Access α) {work : Instant → Work α}
    {operation : OutboxRows → Instant → Except Error (α × OutboxRows)}
    (units : ∀ now, IsUnit (operations now) (work now))
    (acts : ∀ now, (work now).ActsAs table fun rows => operation rows now) :
    WritesRows (accessNow operations : Sweep (Site τ) α) table operation := by
  have run : ∀ s : Site τ, (accessNow operations).run s =
      ((s.store.atomic (id <$> Work.onOutbox table fun rows => operation rows s.clock)).1,
        { s with store :=
          (s.store.atomic (id <$> Work.onOutbox table fun rows => operation rows s.clock)).2 }) := by
    intro s
    rw [← (acts s.clock).atomic_map s.store id, id_map, ← units s.clock s.store]
    rfl
  refine ⟨fun {s a rows} done => ?_, fun {s e} refused => ?_⟩
  · change operation (s.store.tables.outbox table) s.clock = .ok (a, rows) at done
    rw [run, s.store.atomic_onOutbox, done]
    rfl
  · change operation (s.store.tables.outbox table) s.clock = .error e at refused
    rw [run, s.store.atomic_onOutbox, refused]

section
variable (table : OutboxTable)

theorem fetchDue_writes (now : Instant) (limit : Int) (lease : Period) :
    WritesRows (accessNow (table.fetchDue now limit lease) : Sweep (Site τ) _) table
      fun rows clock => rows.fetchDue now limit lease clock :=
  writesRows _ (fun clock => table.fetchDue_isUnit clock now limit lease) fun clock =>
    table.fetchDue_actsAs clock now limit lease

theorem applyTransitions_writes (transitions : List EntryTransition) :
    WritesRows (accessNow (table.applyTransitions transitions) : Sweep (Site τ) _) table
      fun rows clock => rows.applyTransitions transitions clock :=
  writesRows _ (fun clock => table.applyTransitions_isUnit clock transitions) fun clock =>
    table.applyTransitions_actsAs clock transitions

theorem release_writes (entries : List OutboxEntry) :
    WritesRows (accessNow (table.release entries) : Sweep (Site τ) _) table
      fun rows clock => rows.release entries clock :=
  writesRows _ (fun clock => table.release_isUnit clock entries) fun clock =>
    table.release_actsAs clock entries

end

end Site

/-- What a sweep does in all when no retry is refused. `fetched` are the entries that it claims and
`active` the endpoints it sends to; it attempts the first `started` of the entries. -/
structure Swept (c : Circumstances) (config : DeliveryConfig) (fetched : List OutboxEntry)
    (active : List WebhookEndpoint) (started : Nat) (rows rows' : OutboxRows) (posts : List Post)
    (stats : DeliveryStats) : Prop where
  within : started ≤ fetched.length
  in_time : ∀ k < started, (c.elapsed k).nanos < config.softLimit.nanos
  out_of_time : started < fetched.length → config.softLimit.nanos ≤ (c.elapsed started).nanos
  requests : posts.map (fun post => (post.endpoint, post.entry)) =
    (fetched.take started).flatMap fun entry =>
      (active.filter (·.subscribesTo entry.eventType)).map fun endpoint => (endpoint, entry)
  answers : ∀ earlier post later, posts = earlier ++ post :: later →
    post.result = c.answer earlier post.endpoint post.entry
  ids : rows'.map (·.id) = rows.map (·.id)
  attempted : ∀ k (entry : OutboxEntry), (fetched.take started)[k]? = some entry →
    ∃ row ∈ rows', entry.Settled c posts k row
  deferred : ∀ entry ∈ fetched.drop started, 
    ∃ time, ({ entry with updatedAt := time } : OutboxEntry) ∈ rows'
  others : ∀ row ∈ rows, row ∉ fetched → row ∈ rows'
  stats : stats = {
    processed := started
    delivered := (fetched.take started).countP fun entry =>
      (Post.complaints (Post.about posts entry)).isEmpty
    failed := (fetched.take started).countP fun entry =>
      !(Post.complaints (Post.about posts entry)).isEmpty && entry.maxAttempts ≤ entry.attempts + 1
    skipped := 0
    deferred := fetched.length - started
    remaining := rows'.pendingCount }

/-- The transition of an attempt at the entry, given all requests of the sweep. -/
def OutboxEntry.SettledBy (c : Circumstances) (posts : List Post) (entry : OutboxEntry)
    (t : EntryTransition) : Prop :=
  ∃ k, ({} : RetryPolicy).transition (c.chance k) entry
    (Post.verdict (Post.about posts entry)) (c.clock (k + 1)) = .ok t

namespace Circumstances.Attempts
variable {c : Circumstances} {config : DeliveryConfig} {active : List WebhookEndpoint}
  {posts : List Post} {fetched : List OutboxEntry} {transitions : List EntryTransition}

theorem settledBy (attempts : c.Attempts { config } active 0 [] fetched transitions posts)
    (distinct : fetched.Pairwise fun a b => a.id ≠ b.id) :
    List.Forall₂ (OutboxEntry.SettledBy c posts) (fetched.take transitions.length) transitions := by
  have bound := attempts.length_le
  rw [List.forall₂_iff_get]
  refine ⟨by rw [List.length_take]; omega, fun i inTake inTransitions => ⟨i, ?_⟩⟩
  have settles := attempts.settles distinct (List.getElem?_eq_getElem inTransitions)
    (List.getElem?_eq_getElem (by omega : i < fetched.length))
  simpa only [Nat.zero_add, List.get_eq_getElem, List.getElem_take] using settles

/-- Without U+0000 in addresses and answers there is none in the messages. -/
theorem messages (attempts : c.Attempts { config } active 0 [] fetched transitions posts)
    (distinct : fetched.Pairwise fun a b => a.id ≠ b.id)
    (urls : ∀ endpoint ∈ active, hasNull endpoint.url = false)
    (texts : ∀ posts endpoint entry, hasNull (c.answer posts endpoint entry).error = false) :
    ∀ t ∈ transitions, hasNull t.errorMessage = false := by
  have clean : ∀ post ∈ posts, hasNull post.complaint = false := by
    intro post member
    have request := List.mem_map_of_mem (f := fun post : Post => (post.endpoint, post.entry)) member
    rw [attempts.requests] at request
    obtain ⟨entry, _, pair⟩ := List.mem_flatMap.mp request
    obtain ⟨endpoint, among, same⟩ := List.mem_map.mp pair
    have isEndpoint : endpoint = post.endpoint := congrArg Prod.fst same
    obtain ⟨earlier, later, parts⟩ := List.append_of_mem member
    rw [Post.complaint, hasNull_append, hasNull_append, attempts.answers parts, texts,
      ← isEndpoint, urls endpoint (List.mem_of_mem_filter among)]
    decide
  intro t member
  obtain ⟨entry, _, k, made⟩ := exists_related (attempts.settledBy distinct) member
  have clean' : hasNull (String.intercalate "; " (Post.complaints (Post.about posts entry))) =
      false := by
    refine hasNull_intercalate (by decide) fun text inTexts => ?_
    obtain ⟨post, inPosts, rfl⟩ := List.mem_map.mp inTexts
    exact clean post (List.mem_of_mem_filter (List.mem_of_mem_filter inPosts))
  rcases RetryPolicy.transition_verdict_cases made with ⟨_, rfl⟩ | ⟨_, _, rfl⟩ | ⟨_, _, _, rfl⟩
  · exact (by decide : hasNull "" = false)
  · exact clean'
  · exact clean'

end Circumstances.Attempts

theorem OutboxEntry.SettledBy.delivered_iff {c : Circumstances} {posts : List Post}
    {entry : OutboxEntry} {t : EntryTransition} (settled : entry.SettledBy c posts t) :
    t.status = .delivered ↔ Post.complaints (Post.about posts entry) = [] := by
  obtain ⟨k, made⟩ := settled
  rcases RetryPolicy.transition_verdict_cases made with ⟨passed, rfl⟩ | ⟨broken, _, rfl⟩ |
    ⟨_, broken, _, rfl⟩
  · exact ⟨fun _ => passed, fun _ => rfl⟩
  · exact ⟨nofun, fun passed => absurd passed broken⟩
  · exact ⟨nofun, fun passed => absurd passed broken⟩

theorem OutboxEntry.SettledBy.failed_iff {c : Circumstances} {posts : List Post}
    {entry : OutboxEntry} {t : EntryTransition} (settled : entry.SettledBy c posts t) :
    t.status = .failed ↔ Post.complaints (Post.about posts entry) ≠ [] ∧
      entry.maxAttempts ≤ entry.attempts + 1 := by
  obtain ⟨k, made⟩ := settled
  rcases RetryPolicy.transition_verdict_cases made with ⟨passed, rfl⟩ | ⟨broken, last, rfl⟩ |
    ⟨_, _, more, rfl⟩
  · exact ⟨nofun, fun all => absurd passed all.1⟩
  · exact ⟨fun _ => ⟨broken, last⟩, fun _ => rfl⟩
  · exact ⟨nofun, fun all => absurd more (Int.not_lt.mpr all.2)⟩

theorem countP_of_related {α β : Type} {R : α → β → Prop} {xs : List α} {ys : List β}
    {p : α → Bool} {q : β → Bool} (all : List.Forall₂ R xs ys)
    (agree : ∀ x y, R x y → (q y = true ↔ p x = true)) : ys.countP q = xs.countP p := by
  induction all with
  | nil => rfl
  | cons head _ ih =>
    rw [List.countP_cons, List.countP_cons, ih, Bool.eq_iff_iff.mpr (agree _ _ head)]

/-- The counters of a sweep of which every transition landed. -/
theorem DeliverySweep.stats_eq {c : Circumstances} {posts : List Post}
    {attempted : List OutboxEntry} {transitions : List EntryTransition} (deferred : Nat)
    (remaining : Int) (all : List.Forall₂ (OutboxEntry.SettledBy c posts) attempted transitions) :
    DeliverySweep.stats transitions (transitions.map (·.id)) deferred remaining = {
      processed := transitions.length
      delivered := attempted.countP fun entry =>
        (Post.complaints (Post.about posts entry)).isEmpty
      failed := attempted.countP fun entry =>
        !(Post.complaints (Post.about posts entry)).isEmpty &&
          entry.maxAttempts ≤ entry.attempts + 1
      skipped := 0
      deferred
      remaining } := by
  have landed : transitions.filter (fun t => (transitions.map (·.id)).contains t.id) =
      transitions := List.filter_eq_self.mpr fun t member =>
    List.contains_iff_mem.mpr (List.mem_map_of_mem member)
  have delivered : transitions.countP (·.status = .delivered) = attempted.countP fun entry =>
      (Post.complaints (Post.about posts entry)).isEmpty :=
    countP_of_related all fun entry t settled => by
      rw [decide_eq_true_eq, settled.delivered_iff, List.isEmpty_iff]
  have failed : transitions.countP (·.status = .failed) = attempted.countP fun entry =>
      !(Post.complaints (Post.about posts entry)).isEmpty &&
        entry.maxAttempts ≤ entry.attempts + 1 :=
    countP_of_related all fun entry t settled => by
      simp only [decide_eq_true_eq, settled.failed_iff, Bool.and_eq_true, Bool.not_eq_true',
        List.isEmpty_eq_false_iff]
  simp only [DeliverySweep.stats, landed, delivered, failed, Nat.sub_self]

namespace Swept
variable {c : Circumstances} {config : DeliveryConfig} {fetched copies : List OutboxEntry}
  {active : List WebhookEndpoint} {rows claimed : OutboxRows} {serial : Nat} {lease : Period}
  {posts : List Post} {transitions : List EntryTransition} {clock : Instant}

open OutboxRows in
/-- The attempts and the write-backs together, once the entries are claimed. -/
theorem of_attempts (consistent : rows.Consistent) (tracked : rows.Tracked serial copies)
    (claims : rows.fetchDue (c.clock 0) config.batchSize lease clock = .ok (fetched, claimed))
    (attempts : c.Attempts { config } active 0 [] fetched transitions posts)
    (all : List.Forall₂ OutboxEntry.Attempted (fetched.take transitions.length) transitions)
    (settling giving : Instant) {rows' : OutboxRows}
    (written : rows' = claimed.writtenBack transitions (fetched.drop transitions.length)
      settling giving) :
    Swept c config fetched active transitions.length rows rows' posts
      (DeliverySweep.stats transitions (transitions.map (·.id))
        (fetched.drop transitions.length).length rows'.pendingCount) := by
  subst written
  have distinct := consistent.fetched_distinct claims
  obtain ⟨claimEnd, ends, _⟩ := fetchDue_eq_ok_iff.mp claims
  have parts := List.take_append_drop transitions.length fetched
  have claims' := claims
  rw [← parts] at claims'
  refine { within := attempts.length_le, in_time := ?_, out_of_time := ?_,
           requests := attempts.requests, answers := ?_, ids := writtenBack_ids claims',
           attempted := ?_, deferred := ?_, others := ?_, stats := ?_ }
  · simpa only [Nat.zero_add] using attempts.in_time
  · simpa only [Nat.zero_add] using attempts.out_of_time
  · intro earlier post later split
    simpa only [List.nil_append] using attempts.answers split
  · intro k entry at_k
    have inTake := List.mem_of_getElem? at_k
    rw [List.getElem?_take] at at_k
    split at at_k
    · rename_i started
      have due := due_of_fetched claims (List.mem_of_mem_take inTake)
      have life := tracked.lifecycle entry (.inl due.1)
      have made := attempts.settles distinct (List.getElem?_eq_getElem started) at_k
      rw [Nat.zero_add] at made
      exact ⟨_, consistent.attempted_mem claims' ends all inTake (List.getElem_mem started)
          (RetryPolicy.transition_id made).1,
        life.settled (OutboxEntry.pending_of_isDue due.2) made claimEnd clock settling⟩
    · cases at_k
  · exact fun entry later => ⟨giving, consistent.deferred_mem claims' all later⟩
  · intro row member unfetched
    rw [← parts] at unfetched
    exact consistent.unfetched_mem claims' all member unfetched
  · rw [DeliverySweep.stats_eq _ _ (attempts.settledBy distinct), List.length_drop]

end Swept

end OutboxRelay
