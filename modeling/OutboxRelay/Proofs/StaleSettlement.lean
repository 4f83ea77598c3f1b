import OutboxRelay.Proofs.AttemptCount
import OutboxRelay.Proofs.BatchWrites
import OutboxRelay.Proofs.Circumstances

namespace OutboxRelay

/-- An entry can be refused by its only subscriber. -/
theorem OutboxEntry.exists_refusal (entry : OutboxEntry) (url error : String) :
    ∃ (σ : Type) (services : DeliveryServices σ) (endpoints : List WebhookEndpoint) (s s' : σ),
      (DeliverySweep.deliverEntry services endpoints entry).run s =
        (.ok (some (url ++ ": " ++ error)), s') := by
  let time : Instant := ⟨0, 0⟩
  let endpoint : WebhookEndpoint := ⟨entry.id, url, "", [], true, time, time⟩
  let c : Circumstances :=
    ⟨fun _ => time, fun _ => ⟨0⟩, fun _ _ => 0, fun _ _ _ => .failure none error⟩
  have verdict : Post.verdict (c.exchange entry [] [endpoint]) = some (url ++ ": " ++ error) := by
    simp only [Post.verdict, Circumstances.exchange, Post.complaints]
    exact congrArg some String.intercalate_singleton
  have run := c.deliverEntry_run .core [endpoint] entry { clock := time, others := {} }
  rw [← verdict]
  exact ⟨Site Course, c.services .core, [endpoint], _, _, run⟩

/-- An entry that nobody subscribes to is as good as taken. -/
theorem OutboxEntry.exists_success (entry : OutboxEntry) :
    ∃ (σ : Type) (services : DeliveryServices σ) (endpoints : List WebhookEndpoint) (s s' : σ),
      (DeliverySweep.deliverEntry services endpoints entry).run s = (.ok none, s') := by
  let time : Instant := ⟨0, 0⟩
  let c : Circumstances :=
    ⟨fun _ => time, fun _ => ⟨0⟩, fun _ _ => 0, fun _ _ _ => .success 200⟩
  exact ⟨Site Course, c.services .core, [], _, _,
    c.deliverEntry_run .core [] entry { clock := time, others := {} }⟩

/-- A last attempt that the only subscriber refuses. -/
theorem OutboxEntry.attempted_refused (entry : OutboxEntry)
    (last : entry.maxAttempts ≤ entry.attempts + 1) (url error : String) :
    entry.Attempted ⟨entry.id, entry.attempts, entry.attempts + 1, .failed, none, none,
      url ++ ": " ++ error⟩ := by
  obtain ⟨σ, services, endpoints, s, s', run⟩ := entry.exists_refusal url error
  exact ⟨σ, services, endpoints, s, s', _, {}, fun n => n, ⟨0, 0⟩, run, if_pos last⟩

namespace OutboxRows
variable {rows rows' : OutboxRows} {transitions : List EntryTransition} {ids : List Uuid}
  {clock : Instant}

theorem ids_subset (settled : rows.applyTransitions transitions clock = .ok (ids, rows')) :
    ids ⊆ transitions.map (·.id) := by
  induction transitions generalizing rows ids with
  | nil =>
    cases settled
    exact List.Subset.refl _
  | cons t rest ih =>
    obtain ⟨between, n, more, _, _, others, rfl⟩ := applyTransitions_cons_eq_ok_iff.mp settled
    have later : more ⊆ (t :: rest).map (·.id) := List.subset_cons_of_subset _ (ih others)
    split
    · exact List.cons_subset.mpr ⟨List.mem_cons_self, later⟩
    · exact later

/-- A guarded write of one entry leaves the rows of all others as they are. -/
theorem untouched_amend_iff {selected other : Uuid} {attempts attempts' : Int} {count : Nat}
    {change : OutboxEntry → OutboxEntry} (different : selected ≠ other)
    (amended : rows.amend (isUntouched selected attempts) change = .ok (rows', count))
    (keeps : ∀ row, (change row).id = row.id) :
    (∃ row ∈ rows', isUntouched other attempts' row = true) ↔
      ∃ row ∈ rows, isUntouched other attempts' row = true := by
  have missed : ∀ row : OutboxEntry, row.id = other → ¬ isUntouched selected attempts row = true :=
    fun row isOther untouched => different ((isUntouched_iff.mp untouched).1.symm.trans isOther)
  constructor
  · rintro ⟨changed, member, untouched⟩
    obtain ⟨_, rfl, _⟩ := amend_eq_ok_iff.mp amended
    obtain ⟨row, inRows, rfl⟩ := List.mem_map.mp member
    by_cases picked : isUntouched selected attempts row = true
    · rw [if_pos picked] at untouched
      have isOther := (keeps row).symm.trans (isUntouched_iff.mp untouched).1
      exact absurd picked (missed row isOther)
    · rw [if_neg picked] at untouched
      exact ⟨row, inRows, untouched⟩
  · rintro ⟨row, inRows, untouched⟩
    exact ⟨row, mem_of_amend amended inRows (missed row (isUntouched_iff.mp untouched).1), untouched⟩

/-- Of transitions of different entries those land whose entries are there as expected. -/
theorem mem_ids_iff (settled : rows.applyTransitions transitions clock = .ok (ids, rows'))
    (distinct : transitions.Pairwise fun a b => a.id ≠ b.id) {t : EntryTransition}
    (member : t ∈ transitions) :
    t.id ∈ ids ↔ ∃ row ∈ rows, isUntouched t.id t.previousAttempts row = true := by
  induction transitions generalizing rows ids with
  | nil => cases member
  | cons head rest ih =>
    obtain ⟨between, n, more, _, first, others, rfl⟩ := applyTransitions_cons_eq_ok_iff.mp settled
    obtain ⟨different, distinct'⟩ := List.pairwise_cons.mp distinct
    rcases List.mem_cons.mp member with rfl | later
    · rw [← amend_pos_iff first]
      split
      · rename_i landed
        exact iff_of_true List.mem_cons_self landed
      · rename_i missed
        refine iff_of_false (fun among => ?_) missed
        obtain ⟨t', inRest, same⟩ := List.mem_map.mp (ids_subset others among)
        exact different t' inRest same.symm
    · have isOther := different t later
      rw [← untouched_amend_iff isOther first fun _ => rfl, ← ih others distinct' later]
      split
      · exact ⟨fun among => (List.mem_cons.mp among).resolve_left isOther.symm,
          List.mem_cons_of_mem _⟩
      · rfl

end OutboxRows

namespace Store

/-- No attempt at an entry is settled in a run of calls, and the entry does not start again. -/
def Undisturbed (s : Store) (table : OutboxTable) (id : Uuid) (run : List Transaction) : Prop :=
  s.settlements table id run = 0 ∧ s.renewed table id run = false

/-- An entry starts again in a run of calls and gets back to the state of a copy: pending, with the
same number of attempts. -/
def ComesRound (s : Store) (table : OutboxTable) (copy : OutboxEntry) (run : List Transaction) :
    Prop :=
  s.renewed table copy.id run = true ∧
    s.attemptsAfter table copy.id copy.attempts run = copy.attempts ∧
    ∃ row ∈ (s.after run).rows table, row.id = copy.id ∧ row.status = .pending

end Store

namespace Relay
variable {table : OutboxTable} {r r' : Relay} {run : List Transaction} {copy : OutboxEntry}

/-- What a guarded write sees of the history of its entry. -/
theorem Leads.untouched_iff (leads : Leads table r run r') (reach : Reachable table r)
    (room : r'.store.serial ≤ 2 ^ 128)
    (begun : ∃ row ∈ r.store.rows table,
      OutboxRows.isUntouched copy.id copy.attempts row = true) :
    (∃ row ∈ r'.store.rows table, OutboxRows.isUntouched copy.id copy.attempts row = true) ↔
      r.store.Undisturbed table copy.id run ∨ r.store.ComesRound table copy run := by
  obtain ⟨row, member, untouched⟩ := begun
  obtain ⟨same, pending, attempts⟩ := OutboxRows.isUntouched_iff.mp untouched
  have tracked := reach.tracked (Nat.le_trans leads.serial_le room)
  obtain ⟨number, issued, isNumber⟩ := tracked.issued row (.inl member)
  have counts : ∀ row ∈ r'.store.rows table, row.id = copy.id →
      row.attempts = r.store.attemptsAfter table copy.id copy.attempts run :=
    leads.attempts reach issued (same.symm.trans isNumber) room fun other inRows isRow => by
      rw [reach.consistent.eq_of_id inRows member (isRow.trans same.symm), attempts]
  rw [leads.store_eq] at counts ⊢
  constructor
  · rintro ⟨last, inLast, untouched'⟩
    obtain ⟨isLast, pending', attempts'⟩ := OutboxRows.isUntouched_iff.mp untouched'
    have count := (counts last inLast isLast).symm.trans attempts'
    cases renews : r.store.renewed table copy.id run with
    | false =>
      rw [Store.attemptsAfter_of_not_renewed renews] at count
      exact .inl ⟨by omega, renews⟩
    | true => exact .inr ⟨renews, count, last, inLast, isLast, pending'⟩
  · rintro (⟨unsettled, unrenewed⟩ | ⟨_, round, last, inLast, isLast, pending'⟩)
    · obtain ⟨⟨last, inLast, isLast, pending'⟩, _⟩ :=
        leads.pending reach unsettled ⟨row, member, same, pending⟩
      rw [leads.store_eq] at inLast
      have count := counts last inLast isLast
      rw [Store.attemptsAfter_of_not_renewed unrenewed, unsettled, Int.natCast_zero,
        Int.add_zero] at count
      exact ⟨last, inLast, OutboxRows.isUntouched_iff.mpr ⟨isLast, pending', count⟩⟩
    · have count := (counts last inLast isLast).trans round
      exact ⟨last, inLast, OutboxRows.isUntouched_iff.mpr ⟨isLast, pending', count⟩⟩

/-- A sweep may fetch at any time. -/
theorem permitted_of_fetched {x : Transaction} (held : copy ∈ x.fetched table (r.store.perform x).1) :
    x.Permitted table r.copies := by
  obtain ⟨_, _, _, _, isFetch, _⟩ := (r.store.perform_step x table).fetched_of_mem held
  exact ⟨fun _ _ other => (nomatch isFetch.symm.trans other),
    fun _ _ other => (nomatch isFetch.symm.trans other)⟩

/-- Right after a fetch its copies are up to date. -/
theorem Reachable.untouched_of_fetched {x : Transaction} (reach : Reachable table r)
    (held : copy ∈ x.fetched table (r.store.perform x).1) :
    ∃ row ∈ (r.perform table x).store.rows table,
      OutboxRows.isUntouched copy.id copy.attempts row = true := by
  obtain ⟨_, _, _, _, _, fetched⟩ := (r.store.perform_step x table).fetched_of_mem held
  obtain ⟨claimEnd, ends, _⟩ := OutboxRows.fetchDue_eq_ok_iff.mp fetched
  have pending := OutboxEntry.pending_of_isDue (OutboxRows.due_of_fetched fetched held).2
  exact ⟨_, reach.consistent.claim_mem fetched ends held, OutboxRows.isUntouched_claim pending⟩

/-- A transition that a sweep writes lands if nothing happened to its entry since the fetch, and
also if the entry failed meanwhile, started again and got back to the number of attempts that it
had then. A message with U+0000 keeps the whole batch from landing. -/
theorem settlement_lands_iff {first write : Transaction} {attempted deferred : List OutboxEntry}
    {transitions : List EntryTransition} (reach : Reachable table r)
    (fetched : first.fetched table (r.store.perform first).1 = attempted ++ deferred)
    (leads : Leads table (r.perform table first) run r') (room : r'.store.serial ≤ 2 ^ 128)
    (all : List.Forall₂ OutboxEntry.Attempted attempted transitions)
    (target : write.db.outbox.table = table) (settles : write.call = .applyTransitions transitions)
    {entry : OutboxEntry} (inAttempted : entry ∈ attempted) :
    (∃ ids, (r'.store.perform write).1 = .ok (.ids ids) ∧ entry.id ∈ ids) ↔
      (∀ t ∈ transitions, hasNull t.errorMessage = false) ∧
        ((r.perform table first).store.Undisturbed table entry.id run ∨
          (r.perform table first).store.ComesRound table entry run) := by
  have held : entry ∈ first.fetched table (r.store.perform first).1 := by
    rw [fetched]
    exact List.mem_append_left _ inAttempted
  obtain ⟨t, inTransitions, came⟩ := exists_related (R := flip OutboxEntry.Attempted)
    (List.Forall₂.flip (R := flip OutboxEntry.Attempted) all) inAttempted
  have isEntry : t.id = entry.id := OutboxEntry.Attempted.id came
  have isGuard : t.previousAttempts = entry.attempts := OutboxEntry.Attempted.previousAttempts came
  have begun : Reachable table (r.perform table first) :=
    .perform reach (permitted_of_fetched held)
  have reach' := leads.reachable begun
  have tracked := reach'.tracked room
  rw [← leads.untouched_iff begun room (reach.untouched_of_fetched held), ← isEntry, ← isGuard]
  obtain ⟨_, _, _, _, _, claims⟩ := (r.store.perform_step first table).fetched_of_mem held
  rw [fetched] at claims
  have distinct := attempted_distinct all
    (List.pairwise_append.mp (reach.consistent.fetched_distinct claims)).1
  have behind : ∀ t ∈ transitions, ∃ copy ∈ r'.copies, copy.Attempted t := by
    intro t member
    obtain ⟨copy, inAttempted, came⟩ := exists_related all member
    refine ⟨copy, leads.copies_subset (List.mem_append_right _ ?_), came⟩
    rw [fetched]
    exact List.mem_append_left _ inAttempted
  rcases r'.store.perform_applyTransitions_cases settles table with ⟨_, _, failed⟩ |
    ⟨ids, _, settled, reply, _⟩
  · obtain ⟨e, refused, reply⟩ := failed target
    obtain ⟨_, bad, inBatch, null⟩ :=
      tracked.applyTransitions_error reach'.consistent behind refused
    refine iff_of_false (fun ⟨_, done, _⟩ => nomatch reply.symm.trans done) fun ⟨clean, _⟩ => ?_
    exact Bool.false_ne_true ((clean bad inBatch).symm.trans null)
  · rw [reply, ← OutboxRows.mem_ids_iff settled distinct inTransitions]
    constructor
    · rintro ⟨_, ⟨⟩, among⟩
      exact ⟨OutboxRows.clean_of_settled settled, among⟩
    · rintro ⟨_, among⟩
      exact ⟨ids, rfl, among⟩

/-- The theorem about an event with one attempt that two sweeps deliver at once: the one that is
late writes its failure over an operator's request to try again. -/
theorem settlement_lands_iff_requeued :
    let time : Int → Instant := fun secs => ⟨1767225600 + secs, 0⟩
    let fetch : Int → Transaction := fun secs =>
      ⟨{}, time secs, .fetchDue (time secs) 20 (Period.ofSeconds 300)⟩
    let settle : Int → String → Transaction := fun secs error =>
      ⟨{}, time secs, .applyTransitions
        [⟨Uuid.ofSerial 0, 0, 1, .failed, none, none, "http://a.test" ++ ": " ++ error⟩]⟩
    let r := ({} : Relay).perform .core
      ⟨{ outbox := { maxAttempts := 1 } }, time 0,
        .emit ⟨"file", "1", "file.stored", none, none⟩⟩
    let run := [fetch 301, settle 301 "HTTP 503",
      ⟨{}, time 301, .requeueFailed [Uuid.ofSerial 0] (time 301)⟩]
    ∃ entry r', entry.id = Uuid.ofSerial 0 ∧ Reachable .core r ∧
      (fetch 0).fetched .core (r.store.perform (fetch 0)).1 = [entry] ∧
      Leads .core (r.perform .core (fetch 0)) run r' ∧ r'.store.serial ≤ 2 ^ 128 ∧
      (r.perform .core (fetch 0)).store.ComesRound .core entry run ∧
      ∃ ids, (r'.store.perform (settle 302 "HTTP 500")).1 = .ok (.ids ids) ∧ entry.id ∈ ids := by
  intro time fetch settle r run
  have reach : Reachable .core r := .perform .empty ⟨nofun, nofun⟩
  have facts : ((fetch 0).fetched .core (r.store.perform (fetch 0)).1).map
      (fun e => (e.id, e.attempts, e.maxAttempts)) = [(Uuid.ofSerial 0, 0, 1)] := by decide +kernel
  obtain ⟨entry, fetched, isEntry⟩ := List.map_eq_singleton_iff.mp facts
  simp only [Prod.mk.injEq] at isEntry
  obtain ⟨isId, attempts, limit⟩ := isEntry
  have attempted : ∀ error, entry.Attempted
      ⟨Uuid.ofSerial 0, 0, 1, .failed, none, none, "http://a.test" ++ ": " ++ error⟩ := by
    intro error
    have refused := entry.attempted_refused (by omega) "http://a.test" error
    rwa [isId, attempts] at refused
  have held : entry ∈ (r.perform .core (fetch 0)).copies := by
    refine List.mem_append_right _ ?_
    rw [fetched]
    exact List.mem_singleton_self entry
  have settles : ∀ {copies : List OutboxEntry} (secs : Int) (error : String), entry ∈ copies →
      (settle secs error).Permitted .core copies := by
    refine fun secs error held => ⟨nofun, ?_⟩
    rintro _ _ ⟨⟩ t member
    exact List.mem_singleton.mp member ▸ ⟨entry, held, attempted error⟩
  obtain ⟨r', leads⟩ : ∃ r', Leads .core (r.perform .core (fetch 0)) run r' :=
    ⟨_, .call ⟨nofun, nofun⟩ (.call (settles 301 "HTTP 503" (List.mem_append_left _ held))
      (.call ⟨nofun, nofun⟩ .done))⟩
  have room : r'.store.serial ≤ 2 ^ 128 := by
    rw [leads.store_eq]
    decide +kernel
  have round : (r.perform .core (fetch 0)).store.ComesRound .core entry run := by
    rw [Store.ComesRound, isId, attempts]
    decide +kernel
  refine ⟨entry, r', isId, reach, fetched, leads, room, round, ?_⟩
  exact (settlement_lands_iff reach (fetched.trans (List.append_nil [entry]).symm) leads room
    (.cons (attempted "HTTP 500") .nil) rfl rfl (List.mem_singleton_self entry)).mpr
    ⟨List.forall_mem_singleton.mpr (by decide), .inr round⟩

end Relay

end OutboxRelay
