import OutboxRelay.Proofs.WorkRun
import OutboxRelay.Sweep.Site

namespace OutboxRelay

/-- A request that was made, and how it was answered. -/
structure Post where
  endpoint : WebhookEndpoint
  entry : OutboxEntry
  result : DeliveryResult

namespace Post

/-- How a message names a request that failed. -/
def complaint (post : Post) : String := post.endpoint.url ++ ": " ++ post.result.error

/-- The messages of those that failed, in order. -/
def complaints (posts : List Post) : List String :=
  (posts.filter fun post => !post.result.ok).map complaint

/-- What the requests for one entry come to: an error unless all of them were taken. -/
def verdict (posts : List Post) : Option String :=
  if (complaints posts).isEmpty then none else some (String.intercalate "; " (complaints posts))

/-- The requests that were made for an entry. -/
def about (posts : List Post) (entry : OutboxEntry) : List Post :=
  posts.filter fun post => post.entry.id = entry.id

end Post

/-- What happened around a sweep: how often it looked at the clock, at the stopwatch and to chance,
and what it sent. -/
structure Course where
  readings : Nat := 0
  checks : Nat := 0
  draws : Nat := 0
  posts : List Post := []

/-- Another site after some requests. -/
def Site.sent (s : Site Course) (posts : List Post) : Site Course :=
  { s with others := { s.others with posts := s.others.posts ++ posts } }

/-- What a sweep has no say in: the readings of the clock and of the stopwatch, chance, and the
answers of the subscribers, which may depend on all that was sent before. -/
structure Circumstances where
  clock : Nat → Instant
  elapsed : Nat → Span
  chance : Nat → Int → Int
  answer : List Post → WebhookEndpoint → OutboxEntry → DeliveryResult

namespace Circumstances

def now (c : Circumstances) : Sweep (Site Course) Instant := fun s =>
  (.ok (c.clock s.others.readings), { s with
    clock := c.clock s.others.readings
    others := { s.others with readings := s.others.readings + 1 } })

def stopwatch (c : Circumstances) : Sweep (Site Course) Span := fun s =>
  (.ok (c.elapsed s.others.checks), { s with
    others := { s.others with checks := s.others.checks + 1 } })

def draw (c : Circumstances) : Sweep (Site Course) (Int → Int) := fun s =>
  (.ok (c.chance s.others.draws), { s with
    others := { s.others with draws := s.others.draws + 1 } })

def deliver (c : Circumstances) (endpoint : WebhookEndpoint) (entry : OutboxEntry) :
    Sweep (Site Course) DeliveryResult := fun s =>
  let result := c.answer s.others.posts endpoint entry
  (.ok result, s.sent [⟨endpoint, entry, result⟩])

/-- The services of a sweep over an outbox table that nobody else writes to meanwhile. -/
def services (c : Circumstances) (table : OutboxTable) : DeliveryServices (Site Course) :=
  { Site.deliveryServices table ⟨0⟩ id c.deliver with
    now := c.now
    stopwatch := c.stopwatch
    draw := c.draw }

/-- The requests for an entry to endpoints in order, after those of before. -/
def exchange (c : Circumstances) (entry : OutboxEntry) :
    List Post → List WebhookEndpoint → List Post
  | _, [] => []
  | before, endpoint :: rest =>
    let post : Post := ⟨endpoint, entry, c.answer before endpoint entry⟩
    post :: c.exchange entry (before ++ [post]) rest

variable {c : Circumstances} {table : OutboxTable} {entry : OutboxEntry}

/-- Every endpoint gets one request, in order. -/
theorem exchange_requests (before : List Post) (endpoints : List WebhookEndpoint) :
    (c.exchange entry before endpoints).map (fun post => (post.endpoint, post.entry)) =
      endpoints.map fun endpoint => (endpoint, entry) := by
  induction endpoints generalizing before with
  | nil => rfl
  | cons endpoint rest ih => simp only [exchange, List.map_cons, ih]

theorem exchange_entry {before : List Post} {endpoints : List WebhookEndpoint} {post : Post}
    (member : post ∈ c.exchange entry before endpoints) : post.entry = entry := by
  have request := List.mem_map_of_mem (f := fun post : Post => (post.endpoint, post.entry)) member
  rw [exchange_requests] at request
  obtain ⟨_, _, same⟩ := List.mem_map.mp request
  exact (congrArg Prod.snd same).symm

/-- Every request is answered by what was sent before it. -/
theorem exchange_answer {before earlier later : List Post} {endpoints : List WebhookEndpoint}
    {post : Post} (parts : c.exchange entry before endpoints = earlier ++ post :: later) :
    post.result = c.answer (before ++ earlier) post.endpoint post.entry := by
  induction endpoints generalizing before earlier with
  | nil => cases earlier <;> cases parts
  | cons endpoint rest ih =>
    cases earlier with
    | nil =>
      obtain ⟨rfl, _⟩ := List.cons.inj parts
      rw [List.append_nil]
    | cons first others =>
      obtain ⟨rfl, parts'⟩ := List.cons.inj parts
      rw [ih parts', List.append_assoc, List.singleton_append]

theorem failures_run (endpoints : List WebhookEndpoint) (s : Site Course) :
    (DeliverySweep.failures (c.services table) entry endpoints).run s =
      (.ok (Post.complaints (c.exchange entry s.others.posts endpoints)),
        s.sent (c.exchange entry s.others.posts endpoints)) := by
  induction endpoints generalizing s with
  | nil => simp only [DeliverySweep.failures, exchange, Stateful.run_pure, Site.sent,
      List.append_nil, Post.complaints, List.filter_nil, List.map_nil]
  | cons endpoint rest ih =>
    have delivered : ((c.services table).deliver endpoint entry).run s =
        (.ok (c.answer s.others.posts endpoint entry),
          s.sent [⟨endpoint, entry, c.answer s.others.posts endpoint entry⟩]) := rfl
    rw [DeliverySweep.failures, Stateful.run_bind_ok delivered, Stateful.run_bind_ok (ih _)]
    cases taken : (c.answer s.others.posts endpoint entry).ok <;>
      simp [exchange, Site.sent, Post.complaints, Post.complaint, taken]

theorem deliverEntry_run (c : Circumstances) (table : OutboxTable)
    (endpoints : List WebhookEndpoint) (entry : OutboxEntry) (s : Site Course) :
    let sent := c.exchange entry s.others.posts (endpoints.filter (·.subscribesTo entry.eventType))
    (DeliverySweep.deliverEntry (c.services table) endpoints entry).run s =
      (.ok (Post.verdict sent), s.sent sent) := by
  intro sent
  rw [DeliverySweep.deliverEntry, Stateful.run_bind_ok (failures_run _ s)]
  rfl

end Circumstances

end OutboxRelay
