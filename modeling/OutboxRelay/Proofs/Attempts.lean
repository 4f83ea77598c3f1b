import Mathlib.Data.List.Forall2
import OutboxRelay.Proofs.StatefulRun
import OutboxRelay.Sweep.Delivery

namespace OutboxRelay

theorem RetryPolicy.transition_cases {policy : RetryPolicy} {draw : Int → Int}
    {entry : OutboxEntry} {error : Option String} {now : Instant} {t : EntryTransition}
    (made : policy.transition draw entry error now = .ok t) :
    (error = none ∧ t = ⟨entry.id, entry.attempts, entry.attempts + 1, .delivered, none,
        some now, ""⟩) ∨
      (∃ message, error = some message ∧ entry.maxAttempts ≤ entry.attempts + 1 ∧
        t = ⟨entry.id, entry.attempts, entry.attempts + 1, .failed, none, none, message⟩) ∨
      ∃ message period next, error = some message ∧ entry.attempts + 1 < entry.maxAttempts ∧
        policy.delay draw (entry.attempts + 1) = .ok period ∧ now.add? period = some next ∧
        t = ⟨entry.id, entry.attempts, entry.attempts + 1, .pending, some next, none, message⟩ := by
  unfold transition at made
  dsimp only at made
  cases error with
  | none =>
    cases made
    exact .inl ⟨rfl, rfl⟩
  | some message =>
    dsimp only at made
    split at made
    · rename_i last
      cases made
      exact .inr (.inl ⟨message, rfl, last, rfl⟩)
    · rename_i more
      split at made
      · cases made
      · rename_i period delayed
        split at made
        · cases made
        · rename_i next added
          cases made
          exact .inr (.inr ⟨message, period, next, rfl, by omega, delayed, added, rfl⟩)

theorem RetryPolicy.transition_id {policy : RetryPolicy} {draw : Int → Int}
    {entry : OutboxEntry} {error : Option String} {now : Instant} {t : EntryTransition}
    (made : policy.transition draw entry error now = .ok t) :
    t.id = entry.id ∧ t.previousAttempts = entry.attempts := by
  rcases transition_cases made with ⟨_, rfl⟩ | ⟨_, _, _, rfl⟩ | ⟨_, _, _, _, _, _, _, rfl⟩ <;>
    exact ⟨rfl, rfl⟩

namespace DeliverySweep
variable {σ : Type} {services : DeliveryServices σ} {entry : OutboxEntry}

/-- Every text of a failure names the address at least. -/
theorem failures_ne_empty {endpoints : List WebhookEndpoint} {s s' : σ} {errors : List String}
    (run : (failures services entry endpoints).run s = (.ok errors, s')) :
    ∀ text ∈ errors, text ≠ "" := by
  induction endpoints generalizing s s' errors with
  | nil =>
    cases run
    exact nofun
  | cons endpoint rest ih =>
    obtain ⟨result, between, _, others⟩ := Stateful.run_bind_eq_ok_iff.mp run
    obtain ⟨more, last, inner, returned⟩ := Stateful.run_bind_eq_ok_iff.mp others
    have before := ih inner
    cases returned
    split
    · exact before
    · intro text member
      rcases List.mem_cons.mp member with same | old
      · subst same
        simp [String.append_eq_empty_iff]
      · exact before text old

theorem deliverEntry_ne_empty {endpoints : List WebhookEndpoint} {s s' : σ} {message : String}
    (run : (deliverEntry services endpoints entry).run s = (.ok (some message), s')) :
    message ≠ "" := by
  obtain ⟨errors, between, inner, returned⟩ := Stateful.run_bind_eq_ok_iff.mp run
  have nonempty := failures_ne_empty inner
  cases errors with
  | nil => cases returned
  | cons first rest =>
    cases returned
    intro empty
    apply nonempty first List.mem_cons_self
    cases rest with
    | nil => simpa only [String.intercalate_singleton] using empty
    | cons second rest =>
      rw [String.intercalate_cons_cons, String.append_eq_empty_iff,
        String.append_eq_empty_iff] at empty
      exact empty.1.1

end DeliverySweep

/-- `t` is what some attempt at the entry comes to: the subscribers answer as they like, and no
clock, chance or policy is ruled out. -/
def OutboxEntry.Attempted (entry : OutboxEntry) (t : EntryTransition) : Prop :=
  ∃ (σ : Type) (services : DeliveryServices σ) (endpoints : List WebhookEndpoint) (s s' : σ)
    (error : Option String) (policy : RetryPolicy) (draw : Int → Int) (now : Instant),
    (DeliverySweep.deliverEntry services endpoints entry).run s = (.ok error, s') ∧
      policy.transition draw entry error now = .ok t

theorem OutboxEntry.Attempted.id {entry : OutboxEntry} {t : EntryTransition}
    (attempted : entry.Attempted t) : t.id = entry.id := by
  obtain ⟨_, _, _, _, _, _, _, _, _, _, made⟩ := attempted
  exact (RetryPolicy.transition_id made).1

theorem OutboxEntry.Attempted.previousAttempts {entry : OutboxEntry} {t : EntryTransition}
    (attempted : entry.Attempted t) : t.previousAttempts = entry.attempts := by
  obtain ⟨_, _, _, _, _, _, _, _, _, _, made⟩ := attempted
  exact (RetryPolicy.transition_id made).2

theorem OutboxEntry.Attempted.message_ne_empty {entry : OutboxEntry} {t : EntryTransition}
    (attempted : entry.Attempted t) (undelivered : t.status ≠ .delivered) :
    t.errorMessage ≠ "" := by
  obtain ⟨_, _, _, _, _, _, _, _, _, run, made⟩ := attempted
  rcases RetryPolicy.transition_cases made with ⟨_, rfl⟩ | ⟨message, rfl, _, rfl⟩ |
    ⟨message, _, _, rfl, _, _, _, rfl⟩
  · exact absurd rfl undelivered
  · exact DeliverySweep.deliverEntry_ne_empty run
  · exact DeliverySweep.deliverEntry_ne_empty run

/-- What a sweep writes are attempts at entries that it fetched, in order and from the first on. -/
theorem DeliverySweep.attempt_attempted {σ : Type} {sweep : DeliverySweep}
    {services : DeliveryServices σ} {endpoints : List WebhookEndpoint} {entries : List OutboxEntry}
    {s s' : σ} {transitions : List EntryTransition}
    (run : (sweep.attempt services endpoints entries).run s = (.ok transitions, s')) :
    ∃ attempted deferred, entries = attempted ++ deferred ∧
      List.Forall₂ OutboxEntry.Attempted attempted transitions := by
  induction entries generalizing s s' transitions with
  | nil =>
    cases run
    exact ⟨[], [], rfl, .nil⟩
  | cons entry rest ih =>
    obtain ⟨elapsed, started, _, after⟩ := Stateful.run_bind_eq_ok_iff.mp run
    split at after
    · cases after
      exact ⟨[], entry :: rest, rfl, .nil⟩
    · obtain ⟨error, delivered, posts, after⟩ := Stateful.run_bind_eq_ok_iff.mp after
      obtain ⟨now, _, _, after⟩ := Stateful.run_bind_eq_ok_iff.mp after
      obtain ⟨draw, _, _, after⟩ := Stateful.run_bind_eq_ok_iff.mp after
      split at after
      · cases after
      · rename_i t made
        obtain ⟨more, _, others, returned⟩ := Stateful.run_bind_eq_ok_iff.mp after
        cases returned
        obtain ⟨attempted, deferred, rfl, all⟩ := ih others
        exact ⟨entry :: attempted, deferred, rfl,
          .cons ⟨σ, services, endpoints, _, _, error, _, draw, now, posts, made⟩ all⟩

end OutboxRelay
