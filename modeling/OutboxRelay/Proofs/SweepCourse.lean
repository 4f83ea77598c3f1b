import OutboxRelay.Proofs.Circumstances

namespace OutboxRelay

/-- A site where a sweep is about to look whether there is time for the entry of a number. -/
def Site.atEntry (s : Site Course) (k : Nat) : Site Course :=
  { s with others := ⟨k + 1, k, k, s.others.posts⟩ }

namespace Circumstances

/-- What comes of a batch from the entry of a number on, after the requests of before: the
transitions of the entries that are attempted and the requests for them. -/
inductive Attempts (c : Circumstances) (sweep : DeliverySweep) (endpoints : List WebhookEndpoint) :
    Nat → List Post → List OutboxEntry → List EntryTransition → List Post → Prop
  | finished {k before} : Attempts c sweep endpoints k before [] [] []
  | stopped {k before entry rest} : sweep.config.softLimit.nanos ≤ (c.elapsed k).nanos →
      Attempts c sweep endpoints k before (entry :: rest) [] []
  | started {k before entry rest sent t transitions posts} :
      (c.elapsed k).nanos < sweep.config.softLimit.nanos →
      c.exchange entry before (endpoints.filter (·.subscribesTo entry.eventType)) = sent →
      sweep.policy.transition (c.chance k) entry (Post.verdict sent) (c.clock (k + 1)) = .ok t →
      Attempts c sweep endpoints (k + 1) (before ++ sent) rest transitions posts →
      Attempts c sweep endpoints k before (entry :: rest) (t :: transitions) (sent ++ posts)

variable (c : Circumstances) (table : OutboxTable) (sweep : DeliverySweep)
  (endpoints : List WebhookEndpoint)

theorem attempt_late {k : Nat} (late : sweep.config.softLimit.nanos ≤ (c.elapsed k).nanos)
    (entry : OutboxEntry) (rest : List OutboxEntry) (s : Site Course) :
    (sweep.attempt (c.services table) endpoints (entry :: rest)).run (s.atEntry k) =
      (.ok [], { s with others := ⟨k + 1, k + 1, k, s.others.posts⟩ }) := by
  have looks : (c.services table).stopwatch.run (s.atEntry k) =
      (.ok (c.elapsed k), { s with others := ⟨k + 1, k + 1, k, s.others.posts⟩ }) := rfl
  rw [DeliverySweep.attempt, Stateful.run_bind_ok looks, if_pos late, Stateful.run_pure]

/-- An entry that there is time for is sent, and then settled by what chance and the clock say. -/
theorem attempt_in_time {k : Nat} (inTime : (c.elapsed k).nanos < sweep.config.softLimit.nanos)
    (entry : OutboxEntry) (rest : List OutboxEntry) (s : Site Course) :
    let sent := c.exchange entry s.others.posts (endpoints.filter (·.subscribesTo entry.eventType))
    let after := (Site.sent { s with clock := c.clock (k + 1) } sent).atEntry (k + 1)
    (sweep.attempt (c.services table) endpoints (entry :: rest)).run (s.atEntry k) =
      match sweep.policy.transition (c.chance k) entry (Post.verdict sent) (c.clock (k + 1)) with
      | .error fault => (.error (.unschedulable fault), after)
      | .ok t => ((t :: ·) <$> sweep.attempt (c.services table) endpoints rest).run after := by
  intro sent after
  have looks : (c.services table).stopwatch.run (s.atEntry k) =
      (.ok (c.elapsed k), { s with others := ⟨k + 1, k + 1, k, s.others.posts⟩ }) := rfl
  have sends := c.deliverEntry_run table endpoints entry
    { s with others := ⟨k + 1, k + 1, k, s.others.posts⟩ }
  rw [DeliverySweep.attempt, Stateful.run_bind_ok looks, if_neg (by omega),
    Stateful.run_bind_ok sends]
  have reads : (c.services table).now.run
      (Site.sent { s with others := ⟨k + 1, k + 1, k, s.others.posts⟩ } sent) =
      (.ok (c.clock (k + 1)), { s with
        clock := c.clock (k + 1)
        others := ⟨k + 2, k + 1, k, s.others.posts ++ sent⟩ }) := rfl
  have draws : (c.services table).draw.run { s with
        clock := c.clock (k + 1)
        others := ⟨k + 2, k + 1, k, s.others.posts ++ sent⟩ } = (.ok (c.chance k), after) := rfl
  rw [Stateful.run_bind_ok reads, Stateful.run_bind_ok draws]
  cases sweep.policy.transition (c.chance k) entry (Post.verdict sent) (c.clock (k + 1)) with
  | error fault => rfl
  | ok t =>
    dsimp only
    rw [map_eq_pure_bind]

/-- Attempting a batch goes as `Attempts` says, unless a retry cannot be scheduled. The store is
left alone. -/
theorem attempt_run (entries : List OutboxEntry) (k : Nat) (s : Site Course) :
    (∃ transitions posts s',
        (sweep.attempt (c.services table) endpoints entries).run (s.atEntry k) =
          (.ok transitions, s') ∧ s'.store = s.store ∧
        s'.others.posts = s.others.posts ++ posts ∧
        c.Attempts sweep endpoints k s.others.posts entries transitions posts) ∨
      ∃ j entry sent fault s',
        (sweep.attempt (c.services table) endpoints entries).run (s.atEntry k) =
          (.error (.unschedulable fault), s') ∧ s'.store = s.store ∧ entries[j]? = some entry ∧
        (∀ i ≤ j, (c.elapsed (k + i)).nanos < sweep.config.softLimit.nanos) ∧
        sweep.policy.transition (c.chance (k + j)) entry (Post.verdict sent)
          (c.clock (k + j + 1)) = .error fault := by
  induction entries generalizing k s with
  | nil => exact .inl ⟨[], [], s.atEntry k, rfl, rfl, (List.append_nil _).symm, .finished⟩
  | cons entry rest ih =>
    by_cases late : sweep.config.softLimit.nanos ≤ (c.elapsed k).nanos
    · exact .inl ⟨[], [], _, c.attempt_late table sweep endpoints late entry rest s, rfl,
        (List.append_nil _).symm, .stopped late⟩
    · have inTime : (c.elapsed k).nanos < sweep.config.softLimit.nanos := by omega
      rw [c.attempt_in_time table sweep endpoints inTime entry rest s]
      generalize sends : c.exchange entry s.others.posts
        (endpoints.filter (·.subscribesTo entry.eventType)) = sent
      cases made : sweep.policy.transition (c.chance k) entry (Post.verdict sent)
          (c.clock (k + 1)) with
      | error fault =>
        refine .inr ⟨0, entry, sent, fault, _, rfl, rfl, rfl, fun i first => ?_, made⟩
        rwa [Nat.le_zero.mp first]
      | ok t =>
        dsimp only
        rw [Stateful.run_map]
        rcases ih (k + 1) (Site.sent { s with clock := c.clock (k + 1) } sent) with
          ⟨transitions, posts, s', run, store, sentAfter, all⟩ |
          ⟨j, other, sent', fault, s', run, store, at_j, before, stuck⟩
        · rw [run]
          refine .inl ⟨t :: transitions, sent ++ posts, s', rfl, store, ?_,
            .started inTime sends made all⟩
          rw [sentAfter, ← List.append_assoc]
          rfl
        · rw [run]
          have shift : k + (j + 1) = k + 1 + j := by omega
          refine .inr ⟨j + 1, other, sent', fault, s', rfl, store, at_j, fun i bound => ?_, ?_⟩
          · cases i with
            | zero => exact inTime
            | succ i =>
              have later := before i (by omega)
              rwa [show k + (i + 1) = k + 1 + i by omega]
          · rwa [shift]

namespace Attempts
variable {c : Circumstances} {sweep : DeliverySweep} {endpoints : List WebhookEndpoint} {k : Nat}
  {before posts : List Post} {entries : List OutboxEntry} {transitions : List EntryTransition}

theorem length_le (attempts : c.Attempts sweep endpoints k before entries transitions posts) :
    transitions.length ≤ entries.length := by
  induction attempts with
  | finished => exact Nat.le_refl _
  | stopped _ => exact Nat.zero_le _
  | started _ _ _ _ ih => exact Nat.succ_le_succ ih

/-- There was time for each entry that was attempted. -/
theorem in_time (attempts : c.Attempts sweep endpoints k before entries transitions posts) :
    ∀ i < transitions.length, (c.elapsed (k + i)).nanos < sweep.config.softLimit.nanos := by
  induction attempts with
  | finished => exact fun _ none => absurd none (Nat.not_lt_zero _)
  | stopped _ => exact fun _ none => absurd none (Nat.not_lt_zero _)
  | @started k before entry rest sent t transitions posts inTime _ _ _ ih =>
    intro i bound
    cases i with
    | zero => exact inTime
    | succ i =>
      have later := ih i (Nat.lt_of_succ_lt_succ bound)
      rwa [show k + (i + 1) = k + 1 + i by omega]

/-- There was none left for the first that was not. -/
theorem out_of_time (attempts : c.Attempts sweep endpoints k before entries transitions posts)
    (more : transitions.length < entries.length) :
    sweep.config.softLimit.nanos ≤ (c.elapsed (k + transitions.length)).nanos := by
  induction attempts with
  | finished => exact absurd more (Nat.lt_irrefl _)
  | stopped late => exact late
  | @started k before entry rest sent t transitions posts _ _ _ _ ih =>
    have late := ih (Nat.lt_of_succ_lt_succ more)
    rwa [List.length_cons, show k + (transitions.length + 1) = k + 1 + transitions.length by omega]

/-- Each attempted entry goes to the endpoints that subscribe to it, one after the other. -/
theorem requests (attempts : c.Attempts sweep endpoints k before entries transitions posts) :
    posts.map (fun post => (post.endpoint, post.entry)) =
      (entries.take transitions.length).flatMap fun entry =>
        (endpoints.filter (·.subscribesTo entry.eventType)).map fun endpoint => (endpoint, entry) := by
  induction attempts with
  | finished => rfl
  | stopped _ => rfl
  | started _ sends _ _ ih =>
    rw [List.map_append, ih, ← sends, exchange_requests, List.length_cons, List.take_succ_cons,
      List.flatMap_cons]

theorem entry_mem (attempts : c.Attempts sweep endpoints k before entries transitions posts)
    {post : Post} (member : post ∈ posts) : post.entry ∈ entries := by
  have request := List.mem_map_of_mem (f := fun post : Post => (post.endpoint, post.entry)) member
  rw [attempts.requests] at request
  obtain ⟨entry, taken, pair⟩ := List.mem_flatMap.mp request
  obtain ⟨_, _, same⟩ := List.mem_map.mp pair
  have isEntry : entry = post.entry := congrArg Prod.snd same
  exact isEntry ▸ List.mem_of_mem_take taken

theorem answers (attempts : c.Attempts sweep endpoints k before entries transitions posts)
    {earlier later : List Post} {post : Post} (parts : posts = earlier ++ post :: later) :
    post.result = c.answer (before ++ earlier) post.endpoint post.entry := by
  induction attempts generalizing earlier with
  | finished => cases earlier <;> cases parts
  | stopped _ => cases earlier <;> cases parts
  | @started k before entry rest sent t transitions posts _ sends _ _ ih =>
    rcases List.append_eq_append_iff.mp parts with ⟨between, rfl, inRest⟩ | ⟨between, inSent, tail⟩
    · rw [ih inRest, List.append_assoc]
    · cases between with
      | nil =>
        rw [List.append_nil] at inSent
        rw [List.nil_append] at tail
        have first := ih (show posts = [] ++ post :: later from tail.symm)
        rwa [List.append_nil, inSent] at first
      | cons head others =>
        obtain ⟨rfl, _⟩ := List.cons.inj tail
        rw [inSent] at sends
        exact exchange_answer sends

/-- Each attempted entry is settled by the answers to the requests for it. -/
theorem settles (attempts : c.Attempts sweep endpoints k before entries transitions posts)
    (distinct : entries.Pairwise fun a b => a.id ≠ b.id) {i : Nat} {t : EntryTransition}
    {entry : OutboxEntry} (settled : transitions[i]? = some t) (taken : entries[i]? = some entry) :
    sweep.policy.transition (c.chance (k + i)) entry (Post.verdict (Post.about posts entry))
      (c.clock (k + i + 1)) = .ok t := by
  induction attempts generalizing i with
  | finished => cases settled
  | stopped _ => cases settled
  | @started k before head rest sent t' transitions posts _ sends made others ih =>
    obtain ⟨different, distinct'⟩ := List.pairwise_cons.mp distinct
    have sentFor : ∀ post ∈ sent, post.entry = head := fun post member =>
      exchange_entry (sends ▸ member)
    cases i with
    | zero =>
      cases settled
      cases taken
      have mine : Post.about sent entry = sent := List.filter_eq_self.mpr fun post member => by
        rw [sentFor post member, decide_eq_true rfl]
      have none : Post.about posts entry = [] := List.filter_eq_nil_iff.mpr fun post member => by
        rw [decide_eq_true_eq]
        exact (different _ (others.entry_mem member)).symm
      unfold Post.about at mine none ⊢
      rwa [List.filter_append, mine, none, List.append_nil]
    | succ i =>
      have later := ih distinct' settled taken
      have inRest : entry ∈ rest := List.mem_of_getElem? taken
      have none : Post.about sent entry = [] := List.filter_eq_nil_iff.mpr fun post member => by
        rw [decide_eq_true_eq, sentFor post member]
        exact different _ inRest
      unfold Post.about at none later ⊢
      rwa [List.filter_append, none, List.nil_append, show k + (i + 1) = k + 1 + i by omega]

end Attempts

end Circumstances

end OutboxRelay
