import OutboxRelay.Transport

namespace OutboxRelay

/-- The response to the last of the requests that a receiver has seen. -/
def responseTo (receiver : List HttpRequest → HttpReply) (seen : List HttpRequest) :
    Option HttpResponse :=
  match receiver seen with
  | .sent octets => HttpMessage.read? octets
  | .refused => none
  | .silent => none

/-- Some response after the requests `before`, though not the last one, has a status that makes the
client ask for another address instead of sending there. -/
def Rewritten (receiver : List HttpRequest → HttpReply) (before requests : List HttpRequest) :
    Prop :=
  ∃ seen response, seen <+: requests ∧ before.length < seen.length ∧
    seen.length < requests.length ∧ responseTo receiver seen = some response ∧
    response.status ∈ [301, 302, 303]

theorem not_rewritten_single {receiver : List HttpRequest → HttpReply} {before : List HttpRequest}
    {request : HttpRequest} : ¬ Rewritten receiver before (before ++ [request]) := by
  rintro ⟨seen, _, _, more, less, _⟩
  simp only [List.length_append, List.length_singleton] at less
  omega

/-- Whether requests were rewritten is decided by the first response, or later. -/
theorem rewritten_iff {receiver : List HttpRequest → HttpReply} {before : List HttpRequest}
    {request : HttpRequest} {response : HttpResponse} (rest : List HttpRequest) (more : rest ≠ [])
    (answer : responseTo receiver (before ++ [request]) = some response) :
    Rewritten receiver before (before ++ [request] ++ rest) ↔
      response.status ∈ [301, 302, 303] ∨
        Rewritten receiver (before ++ [request]) (before ++ [request] ++ rest) := by
  have long := List.length_pos_iff.mpr more
  constructor
  · rintro ⟨seen, other, part, above, below, answer', rewrites⟩
    by_cases first : seen.length = (before ++ [request]).length
    · have same : seen = before ++ [request] :=
        (List.prefix_of_prefix_length_le part (List.prefix_append _ rest)
          (Nat.le_of_eq first)).eq_of_length first
      rw [same, answer] at answer'
      cases answer'
      exact .inl rewrites
    · refine .inr ⟨seen, other, part, ?_, below, answer', rewrites⟩
      simp only [List.length_append, List.length_singleton] at first ⊢
      omega
  · rintro (rewrites | ⟨seen, other, part, above, below, answer', rewrites⟩)
    · refine ⟨before ++ [request], response, List.prefix_append _ rest, ?_, ?_, answer, rewrites⟩ <;>
      · simp only [List.length_append, List.length_singleton]
        omega
    · refine ⟨seen, other, part, ?_, below, answer', rewrites⟩
      simp only [List.length_append, List.length_singleton] at above
      omega

namespace HttpHeaders

/-- All fields of a name. -/
def named (headers : HttpHeaders) (name : String) : HttpHeaders :=
  headers.filter fun field => field.1.toLower = name.toLower

theorem named_erase (headers : HttpHeaders) {name other : String}
    (different : name.toLower ≠ other.toLower) :
    (headers.erase other).named name = headers.named name := by
  unfold named erase
  rw [List.filter_filter]
  refine List.filter_congr fun field _ => ?_
  by_cases same : field.1.toLower = name.toLower
  · simp only [same, different, decide_true, ne_eq, not_false_eq_true, Bool.and_self]
  · simp only [same, decide_false, Bool.false_and]

end HttpHeaders

namespace HttpRequest
variable {receiver : List HttpRequest → HttpReply} {before : List HttpRequest}
  {request next : HttpRequest} {response : HttpResponse} {left : Nat}

/-- A redirected request is the same for another address, or it has lost its method and body. -/
theorem redirection_cases (goes : request.redirection response = .go next) :
    (response.status ∉ [301, 302, 303] ∧ next.method = request.method ∧
        next.body = request.body ∧ next.headers = request.headers) ∨
      response.status ∈ [301, 302, 303] ∧ next.method = .get ∧ next.body = "" ∧
        next.headers = request.headers.erase "Content-Type" := by
  unfold redirection at goes
  split at goes
  · rename_i redirects
    dsimp only at goes
    split at goes
    · cases goes
    · cases goes
    · split at goes
      · rename_i repeats
        cases goes
        refine .inl ⟨?_, rfl, rfl, rfl⟩
        simp only [List.mem_cons, List.not_mem_nil, or_false] at repeats ⊢
        omega
      · rename_i changes
        cases goes
        refine .inr ⟨?_, rfl, rfl, rfl⟩
        simp only [List.mem_cons, List.not_mem_nil, or_false] at redirects changes ⊢
        omega
  · cases goes

/-- An exchange with a response ends with the first one, or goes on with a redirected request. -/
theorem follow_cases (answered : (request.follow receiver left before).outcome = .ok response) :
    responseTo receiver (before ++ [request]) = some response ∧
        request.follow receiver left before = ⟨before ++ [request], .ok response⟩ ∨
      ∃ less other next, left = less + 1 ∧
        responseTo receiver (before ++ [request]) = some other ∧
        request.redirection other = .go next ∧
        request.follow receiver left before = next.follow receiver less (before ++ [request]) := by
  unfold responseTo
  rw [follow] at answered ⊢
  cases reply : receiver (before ++ [request]) with
  | refused =>
    rw [reply] at answered
    cases answered
  | silent =>
    rw [reply] at answered
    cases answered
  | sent octets =>
    rw [reply] at answered
    dsimp only at answered ⊢
    cases read : HttpMessage.read? octets with
    | none =>
      rw [read] at answered
      cases answered
    | some first =>
      rw [read] at answered
      dsimp only at answered ⊢
      cases goes : request.redirection first with
      | stay =>
        simp only [goes] at answered ⊢
        cases answered
        exact .inl ⟨rfl, rfl⟩
      | refuse =>
        cases left <;> simp only [goes, reduceCtorEq] at answered
      | go next =>
        cases left with
        | zero => simp only [goes, reduceCtorEq] at answered
        | succ less => exact .inr ⟨less, first, next, rfl, rfl, goes, rfl⟩

/-- What reaches the receiver that answers in the end: the request as it was, but for the address,
unless it was rewritten on the way. -/
theorem follow_last (answered : (request.follow receiver left before).outcome = .ok response) :
    ∃ middle last, (request.follow receiver left before).requests = before ++ middle ++ [last] ∧
      responseTo receiver (before ++ middle ++ [last]) = some response ∧
      (∀ name : String, name.toLower ≠ "Content-Type".toLower →
        last.headers.named name = request.headers.named name) ∧
      (Rewritten receiver before (before ++ middle ++ [last]) →
        last.method = .get ∧ last.body = "") ∧
      (¬ Rewritten receiver before (before ++ middle ++ [last]) →
        last.method = request.method ∧ last.body = request.body) := by
  induction left generalizing before request with
  | zero =>
    obtain ⟨answer, stays⟩ | ⟨_, _, _, ⟨⟩, _⟩ := follow_cases answered
    exact ⟨[], request, by rw [stays, List.append_nil], by rwa [List.append_nil], fun _ _ => rfl,
      by simp only [List.append_nil, not_rewritten_single, false_implies], fun _ => ⟨rfl, rfl⟩⟩
  | succ less ih =>
    obtain ⟨answer, stays⟩ | ⟨_, other, next, ⟨⟩, answer, goes, follows⟩ := follow_cases answered
    · exact ⟨[], request, by rw [stays, List.append_nil], by rwa [List.append_nil], fun _ _ => rfl,
        by simp only [List.append_nil, not_rewritten_single, false_implies], fun _ => ⟨rfl, rfl⟩⟩
    · rw [follows] at answered ⊢
      obtain ⟨middle, last, requests, answer', names, lost, kept⟩ := ih answered
      have shape : before ++ [request] ++ middle ++ [last] =
          before ++ (request :: middle) ++ [last] := by simp
      have turns := rewritten_iff (middle ++ [last]) (by simp) answer
      rw [← List.append_assoc] at turns
      rw [shape] at requests answer' lost kept turns
      refine ⟨request :: middle, last, requests, answer', ?_, ?_, ?_⟩
      · intro name custom
        rw [names name custom]
        rcases redirection_cases goes with ⟨_, _, _, headers⟩ | ⟨_, _, _, headers⟩
        · rw [headers]
        · rw [headers, HttpHeaders.named_erase _ custom]
      · intro rewritten
        by_cases later : Rewritten receiver (before ++ [request]) (before ++ (request :: middle) ++ [last])
        · exact lost later
        · have here := (turns.mp rewritten).resolve_right later
          rcases redirection_cases goes with ⟨not_here, _⟩ | ⟨_, method, body, _⟩
          · exact absurd here not_here
          · exact ⟨(kept later).1.trans method, (kept later).2.trans body⟩
      · intro intact
        obtain ⟨not_here, not_later⟩ := not_or.mp (mt turns.mpr intact)
        rcases redirection_cases goes with ⟨_, method, body, _⟩ | ⟨here, _⟩
        · exact ⟨(kept not_later).1.trans method, (kept not_later).2.trans body⟩
        · exact absurd here not_here

end HttpRequest

/-- The request carries the event: it posts the payload, under the signature of what it posts. -/
structure HttpRequest.Carries (request : HttpRequest) (endpoint : WebhookEndpoint)
    (entry : OutboxEntry) : Prop where
  method : request.method = .post
  body : request.body = encodeBody entry.payload
  signed : request.headers.named signatureHeader =
    [(signatureHeader, signature endpoint.secret (octetsOf request.body))]

theorem deliveryRequest?_carries {endpoint : WebhookEndpoint} {entry : OutboxEntry}
    {request : HttpRequest} (built : deliveryRequest? endpoint entry = some request) :
    request.Carries endpoint entry := by
  unfold deliveryRequest? at built
  split at built
  · split at built
    · cases built
      refine ⟨rfl, rfl, ?_⟩
      have type : "Content-Type".toLower ≠ signatureHeader.toLower := by decide +kernel
      have event : eventHeader.toLower ≠ signatureHeader.toLower := by decide +kernel
      have delivery : deliveryHeader.toLower ≠ signatureHeader.toLower := by decide +kernel
      simp [HttpHeaders.named, type, event, delivery]
    · cases built
  · cases built

theorem resultOfResponse_ok {config : TransportConfig} {response : HttpResponse}
    (ok : (resultOfResponse config response).ok = true) : response.isSuccess = true := by
  unfold resultOfResponse at ok
  split at ok
  · assumption
  · cases ok

/-- A delivery that is reported as successful ends with a request that was answered by a success. It
carries the event exactly if no redirect on the way had a status that takes the body away; else it
asks for another address and carries nothing. -/
theorem deliver_ok_carries_iff {config : TransportConfig}
    {receiver : List HttpRequest → HttpReply} {endpoint : WebhookEndpoint} {entry : OutboxEntry}
    (ok : (deliver config receiver endpoint entry).1.ok = true) :
    ∃ earlier last response, (deliver config receiver endpoint entry).2 = earlier ++ [last] ∧
      responseTo receiver (earlier ++ [last]) = some response ∧ response.isSuccess = true ∧
      (last.Carries endpoint entry ↔ ¬ Rewritten receiver [] (earlier ++ [last])) ∧
      (Rewritten receiver [] (earlier ++ [last]) → last.method = .get ∧ last.body = "") := by
  unfold deliver at ok ⊢
  cases built : deliveryRequest? endpoint entry with
  | none =>
    rw [built] at ok
    cases ok
  | some request =>
    rw [built] at ok
    dsimp only at ok ⊢
    cases outcome : (request.send receiver).outcome with
    | error fault =>
      rw [outcome] at ok
      cases ok
    | ok response =>
      rw [outcome] at ok
      have carries := deliveryRequest?_carries built
      obtain ⟨middle, last, requests, answer, names, lost, kept⟩ := HttpRequest.follow_last outcome
      rw [List.nil_append] at requests answer lost kept
      refine ⟨middle, last, response, requests, answer, resultOfResponse_ok ok, ?_, lost⟩
      constructor
      · intro arrives rewritten
        have posted := arrives.method
        rw [(lost rewritten).1] at posted
        cases posted
      · intro intact
        obtain ⟨method, body⟩ := kept intact
        refine ⟨method.trans carries.method, body.trans carries.body, ?_⟩
        rw [names signatureHeader (by decide +kernel), carries.signed, body]

/-- The theorem about a receiver that moved: it answers the post with status 302 and says yes to the
empty request that follows, which does not carry the event. -/
theorem deliver_ok_carries_iff_moved :
    let receiver : List HttpRequest → HttpReply := fun requests =>
      if requests.length = 1 then
        .sent (octetsOf "HTTP/1.1 302 Found\r\nLocation: /moved\r\nContent-Length: 0\r\n\r\n")
      else .sent (octetsOf "HTTP/1.1 200 OK\r\nContent-Length: 0\r\n\r\n")
    let endpoint : WebhookEndpoint :=
      ⟨Uuid.nil, "http://receiver.test/hook", "s", [], true, ⟨0, 0⟩, ⟨0, 0⟩⟩
    let entry : OutboxEntry := ⟨Uuid.nil, "file", "1", "file.stored", .obj [], .pending, "file:1",
      0, 5, some ⟨0, 0⟩, none, "", ⟨0, 0⟩, ⟨0, 0⟩, true⟩
    (deliver {} receiver endpoint entry).1.ok = true ∧
      ((deliver {} receiver endpoint entry).2.map fun request => (request.method, request.body)) =
        [(.post, "{}"), (.get, "")] ∧
      ∃ earlier last, (deliver {} receiver endpoint entry).2 = earlier ++ [last] ∧
        Rewritten receiver [] (earlier ++ [last]) ∧ ¬ last.Carries endpoint entry := by
  intro receiver endpoint entry
  obtain ⟨ok, sent⟩ : (deliver {} receiver endpoint entry).1.ok = true ∧
      ((deliver {} receiver endpoint entry).2.map fun request => (request.method, request.body)) =
        [(.post, "{}"), (.get, "")] := by decide +kernel
  obtain ⟨earlier, last, _, requests, _, _, carries, _⟩ := deliver_ok_carries_iff ok
  have asked : last.method = .get := by
    rw [requests, List.map_append] at sent
    have lasts := congrArg List.getLast? sent
    simp only [List.map_singleton, List.getLast?_append, List.getLast?_singleton,
      Option.some_or, List.getLast?_cons_cons, Option.some.injEq, Prod.mk.injEq] at lasts
    exact lasts.1
  have empty : ¬ last.Carries endpoint entry := by
    intro arrives
    have posted := arrives.method
    rw [asked] at posted
    cases posted
  exact ⟨ok, sent, earlier, last, requests, Classical.not_not.mp (mt carries.mpr empty), empty⟩

end OutboxRelay
