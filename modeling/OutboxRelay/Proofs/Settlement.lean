import OutboxRelay.Proofs.DefaultRetry
import OutboxRelay.Proofs.Lifecycle
import OutboxRelay.Proofs.SweepCourse

namespace OutboxRelay

namespace Post

theorem complaints_eq_nil_iff {posts : List Post} :
    complaints posts = [] ↔ ∀ post ∈ posts, post.result.ok = true := by
  simp only [complaints, List.map_eq_nil_iff, List.filter_eq_nil_iff, Bool.not_eq_true',
    Bool.not_eq_false]

/-- The message of a verdict, if it is one of failure. -/
theorem verdict_cases (posts : List Post) :
    (verdict posts = none ∧ complaints posts = []) ∨
      (verdict posts = some (String.intercalate "; " (complaints posts)) ∧
        complaints posts ≠ []) := by
  unfold verdict
  by_cases none : complaints posts = []
  · exact .inl ⟨if_pos (List.isEmpty_iff.mpr none), none⟩
  · exact .inr ⟨if_neg (mt List.isEmpty_iff.mp none), none⟩

theorem mem_about {posts : List Post} {entry : OutboxEntry} {post : Post} :
    post ∈ about posts entry ↔ post ∈ posts ∧ post.entry.id = entry.id := by
  simp only [about, List.mem_filter, decide_eq_true_eq]

end Post

/-- The transitions that requests for an entry can come to. -/
theorem RetryPolicy.transition_verdict_cases {policy : RetryPolicy} {draw : Int → Int}
    {entry : OutboxEntry} {posts : List Post} {now : Instant} {t : EntryTransition}
    (made : policy.transition draw entry (Post.verdict posts) now = .ok t) :
    (Post.complaints posts = [] ∧
        t = ⟨entry.id, entry.attempts, entry.attempts + 1, .delivered, none, some now, ""⟩) ∨
      (Post.complaints posts ≠ [] ∧ entry.maxAttempts ≤ entry.attempts + 1 ∧
        t = ⟨entry.id, entry.attempts, entry.attempts + 1, .failed, none, none,
          String.intercalate "; " (Post.complaints posts)⟩) ∨
      ∃ next, Post.complaints posts ≠ [] ∧ entry.attempts + 1 < entry.maxAttempts ∧
        t = ⟨entry.id, entry.attempts, entry.attempts + 1, .pending, some next, none,
          String.intercalate "; " (Post.complaints posts)⟩ := by
  rcases Post.verdict_cases posts with ⟨verdict, passed⟩ | ⟨verdict, broken⟩ <;>
    rw [verdict] at made
  · rcases transition_cases made with ⟨_, rfl⟩ | ⟨_, ⟨⟩, _⟩ | ⟨_, _, _, ⟨⟩, _⟩
    exact .inl ⟨passed, rfl⟩
  · rcases transition_cases made with ⟨⟨⟩, _⟩ | ⟨_, ⟨⟩, last, rfl⟩ |
      ⟨_, _, next, ⟨⟩, more, _, _, rfl⟩
    · exact .inr (.inl ⟨broken, last, rfl⟩)
    · exact .inr (.inr ⟨next, broken, more, rfl⟩)

/-- What a sweep makes of an entry that it attempts as its `k`-th, by the requests it made. -/
structure OutboxEntry.Settled (c : Circumstances) (posts : List Post) (k : Nat)
    (entry row : OutboxEntry) : Prop where
  same : row.fixedPart = entry.fixedPart
  counted : row.attempts = entry.attempts + 1
  delivered : row.status = .delivered ↔
    ∀ post ∈ posts, post.entry.id = entry.id → post.result.ok = true
  failed : row.status = .failed ↔
    (∃ post ∈ posts, post.entry.id = entry.id ∧ post.result.ok = false) ∧
      entry.maxAttempts ≤ entry.attempts + 1
  message : row.errorMessage =
    String.intercalate "; " (Post.complaints (Post.about posts entry))
  stamped : row.deliveredAt =
    if row.status = .delivered then some (c.clock (k + 1)).stored else none
  retried : row.status = .pending → ∃ secs next,
    retrySeconds (entry.attempts + 1).toNat ≤ secs ∧
      secs ≤ retrySeconds (entry.attempts + 1).toNat +
        retrySeconds (entry.attempts + 1).toNat / 10 ∧
      (c.clock (k + 1)).add? (Period.ofSeconds secs) = some next ∧
      row.nextAttemptAt = some next.stored
  finished : row.status ≠ .pending → row.nextAttemptAt = none

/-- A settled attempt, written to the row that the fetch left. -/
theorem OutboxEntry.InLifecycle.settled {c : Circumstances} {posts : List Post} {k : Nat}
    {entry : OutboxEntry} {t : EntryTransition} (life : entry.InLifecycle)
    (pending : entry.status = .pending)
    (made : ({} : RetryPolicy).transition (c.chance k) entry
      (Post.verdict (Post.about posts entry)) (c.clock (k + 1)) = .ok t)
    (claimEnd claiming settling : Instant) :
    entry.Settled c posts k
      (OutboxRows.settle t settling (OutboxRows.claim claimEnd claiming entry)) := by
  have unstamped := life.deliveredAt_eq_none (by simp only [pending, ne_eq, reduceCtorEq,
    not_false_eq_true])
  have retry := RetryPolicy.transition_default_retry life.nonneg made
  have passed : Post.complaints (Post.about posts entry) = [] ↔
      ∀ post ∈ posts, post.entry.id = entry.id → post.result.ok = true := by
    simp only [Post.complaints_eq_nil_iff, Post.mem_about, and_imp]
  have broken : (∃ post ∈ posts, post.entry.id = entry.id ∧ post.result.ok = false) ↔
      Post.complaints (Post.about posts entry) ≠ [] := by
    rw [ne_eq, passed]
    simp only [not_forall, Bool.not_eq_true, exists_prop]
  rcases RetryPolicy.transition_verdict_cases made with ⟨clean, rfl⟩ | ⟨broke, last, rfl⟩ |
    ⟨next, broke, more, rfl⟩
  · exact {
      same := rfl
      counted := rfl
      delivered := ⟨fun _ => passed.mp clean, fun _ => rfl⟩
      failed := ⟨by rintro ⟨⟩, fun all => absurd clean (broken.mp all.1)⟩
      message := by rw [clean, String.intercalate_nil]; rfl
      stamped := rfl
      retried := by rintro ⟨⟩
      finished := fun _ => rfl }
  · exact {
      same := rfl
      counted := rfl
      delivered := ⟨by rintro ⟨⟩, fun all => absurd (passed.mpr all) broke⟩
      failed := ⟨fun _ => ⟨broken.mpr broke, last⟩, fun _ => rfl⟩
      message := rfl
      stamped := by simp [OutboxRows.settle, OutboxRows.claim, unstamped]
      retried := by rintro ⟨⟩
      finished := fun _ => rfl }
  · obtain ⟨secs, later, low, high, added, scheduled⟩ := retry rfl
    exact {
      same := rfl
      counted := rfl
      delivered := ⟨by rintro ⟨⟩, fun all => absurd (passed.mpr all) broke⟩
      failed := ⟨by rintro ⟨⟩, fun all => absurd more (Int.not_lt.mpr all.2)⟩
      message := rfl
      stamped := by simp [OutboxRows.settle, OutboxRows.claim, unstamped]
      retried := fun _ =>
        ⟨secs, later, low, high, added, congrArg (Option.map Instant.stored) scheduled⟩
      finished := fun finished => absurd rfl finished }

end OutboxRelay
