import OutboxRelay.Proofs.FileStep

namespace OutboxRelay

/-- The calls that change or remove registered endpoints. -/
def Call.reworksRegistry : Call → Bool
  | .updateEndpoint _ _ => true
  | .deleteEndpoint _ => true
  | _ => false

/-- What a call settles, if it succeeds, about an endpoint: whether it is there with a blank address. -/
def Call.leavesBlank? (id : Uuid) : Call → Option Bool
  | .updateEndpoint target change => if target = id then change.url.map isBlankText else none
  | .deleteEndpoint target => if target = id then some false else none
  | _ => none

theorem Call.leavesBlank?_of_not_reworks {call : Call} (other : call.reworksRegistry = false)
    (id : Uuid) : call.leavesBlank? id = none := by
  cases call <;> first | rfl | cases other

namespace EndpointRows

/-- What one call can do to the registry, given its reply. -/
inductive Step (rows : EndpointRows) (x : Transaction) (reply : Except Error Reply) :
    EndpointRows → Prop
  | kept : x.call.reworksRegistry = false ∨ reply.isOk = false → Step rows x reply rows
  | registered {request} (endpoint : WebhookEndpoint) : x.call = .createEndpoint request →
      isBlankText endpoint.url = false → Step rows x reply (rows ++ [endpoint])
  | changed {id change endpoint} : x.call = .updateEndpoint id change → reply.isOk = true →
      rows.get? id = some endpoint →
      Step rows x reply (rows.map fun row => if row.id = id then amended endpoint change x.now else row)
  | removed {id} : x.call = .deleteEndpoint id → reply.isOk = true →
      Step rows x reply (rows.filter (·.id ≠ id))

variable {rows rows' : EndpointRows} {id : Uuid} {endpoint : WebhookEndpoint} {now : Instant}

theorem create_eq_ok {request : NewEndpoint}
    (created : rows.create id request now = .ok (endpoint, rows')) :
    isBlankText endpoint.url = false ∧ rows' = rows ++ [endpoint] := by
  unfold create at created
  split at created
  · cases created
  · rename_i addressed
    obtain ⟨_, _, made⟩ := bind_eq_ok_iff.mp created
    cases made
    exact ⟨Bool.not_eq_true _ ▸ addressed, rfl⟩

theorem update_eq_ok {change : EndpointChange}
    (updated : rows.update id change now = .ok (endpoint, rows')) :
    ∃ before, rows.get? id = some before ∧ endpoint = amended before change now ∧
      rows' = rows.map fun row => if row.id = id then amended before change now else row := by
  obtain ⟨_, _, made⟩ := bind_eq_ok_iff.mp updated
  split at made
  · cases made
  · rename_i before found
    cases made
    exact ⟨before, found, rfl, rfl⟩

end EndpointRows

@[simp] theorem Tables.endpoints_setOutbox (t : Tables) (table : OutboxTable)
    (rows : List OutboxEntry) : (t.setOutbox table rows).endpoints = t.endpoints := by
  cases table <;> rfl

theorem OutboxSettings.endpoints_of_emit {settings : OutboxSettings} {now : Instant}
    {event : NewOutboxEvent} {u v : UnitOfWork} {result : Except Error OutboxEntry}
    (run : (settings.emit now event).run u = (result, v)) :
    v.tables.endpoints = u.tables.endpoints :=
  (settings.emit_keeps Tables.endpoints_setOutbox now event).eq run

theorem Work.run_onEndpoints {α : Type} (operation : EndpointRows → Except Error (α × EndpointRows))
    (u : UnitOfWork) : (onEndpoints operation).run u =
      match operation u.tables.endpoints with
      | .error e => (.error e, u)
      | .ok (a, rows) => (.ok a, { u with tables := { u.tables with endpoints := rows } }) := by
  rw [onEndpoints, run_tables_bind]
  rcases operation u.tables.endpoints with e | ⟨a, rows⟩ <;> rfl

theorem UploadSettings.endpoints_of_transitionFile {settings : UploadSettings} {now : Instant}
    {id : Uuid} {sources : List FileStatus} {target : FileStatus} {message type : Option String}
    {u v : UnitOfWork} {moved : UploadFile}
    (run : (settings.transitionFile now id sources target message type : Work UploadFile).run u =
      (.ok moved, v)) :
    v.tables.endpoints = u.tables.endpoints := by
  obtain ⟨file, _, _, rfl, rest⟩ := transitionFile_eq_ok run
  cases type with
  | none =>
    rw [rest]
    rfl
  | some type =>
    obtain ⟨entry, emitted⟩ := rest
    have kept := OutboxSettings.endpoints_of_emit emitted
    exact kept

namespace Store
variable {s : Store} {x : Transaction}

/-- Calls on other tables leave the registry alone. -/
theorem endpoints_of_ok {reply : Reply} {u : UnitOfWork}
    (run : (x.call.run x.db x.now : Work Reply).run s.begin = (.ok reply, u))
    (other : x.call.reworksRegistry = false) (noneNew : ∀ request, x.call ≠ .createEndpoint request) :
    u.tables.endpoints = s.tables.endpoints := by
  obtain ⟨db, now, call⟩ := x
  cases call with
  | createEndpoint request => exact absurd rfl (noneNew request)
  | updateEndpoint | deleteEndpoint => cases other
  | emit event =>
    exact ((db.outbox.emit_keeps Tables.endpoints_setOutbox now event).map _).eq run
  | emitAll events =>
    exact ((db.outbox.emitAll_keeps Tables.endpoints_setOutbox now events).map _).eq run
  | fetchDue | release | applyTransitions | cleanup | requeueFailed =>
    exact (Call.run_keeps Tables.endpoints_setOutbox rfl db now).eq run
  | createBatch createdBy key =>
    obtain ⟨_, created, _⟩ := Stateful.run_map_eq_ok run
    obtain ⟨_, _, rfl⟩ := UploadSettings.createBatch_eq_ok created
    rfl
  | startBatch id =>
    obtain ⟨_, started, _⟩ := Stateful.run_map_eq_ok run
    obtain ⟨_, _, _, _, rfl⟩ := UploadSettings.startBatch_eq_ok started
    rfl
  | finalizeBatch id =>
    obtain ⟨_, finalized, _⟩ := Stateful.run_map_eq_ok run
    obtain ⟨_, _, _, _, ⟨_, rfl⟩ | ⟨_, _, _, announced⟩⟩ :=
      UploadSettings.finalizeBatch_eq_ok finalized
    · rfl
    · exact OutboxSettings.endpoints_of_emit announced
  | createFile request =>
    obtain ⟨file, created, _⟩ := Stateful.run_map_eq_ok run
    obtain ⟨_, _, _, between, rfl, rest⟩ := UploadSettings.createFile_eq_ok created
    split at rest
    · obtain ⟨_, emitted⟩ := rest
      exact OutboxSettings.endpoints_of_emit emitted
    · rw [rest]
      rfl
  | markFileStored | markFileProcessed | markFileFailed | markFileDeleted =>
    obtain ⟨_, moved, _⟩ := Stateful.run_map_eq_ok run
    exact UploadSettings.endpoints_of_transitionFile moved
  | createSession token file total chunk =>
    obtain ⟨_, created, _⟩ := Stateful.run_map_eq_ok run
    obtain ⟨_, _, _, _, _, _, _, _, _, _, rfl⟩ := UploadSettings.createSession_eq_ok created
    rfl
  | recordPart id part =>
    obtain ⟨_, done, _⟩ := Stateful.run_map_eq_ok run
    obtain ⟨_, _, _, _, _, _, _, _, _, _, _, _, _, rfl⟩ := UploadSettings.recordPart_eq_ok done
    rfl
  | completeSession id =>
    obtain ⟨_, done, _⟩ := Stateful.run_map_eq_ok run
    obtain ⟨_, _, _, _, _, rfl, ⟨_, _, _, _, emitted⟩ | ⟨_, rfl⟩⟩ :=
      UploadSettings.completeSession_eq_ok done
    · exact OutboxSettings.endpoints_of_emit emitted
    · rfl
  | abortSession | failSession =>
    obtain ⟨_, done, _⟩ := Stateful.run_map_eq_ok run
    obtain ⟨_, _, _, _, rfl⟩ := UploadSettings.terminateSession_eq_ok done
    rfl
  | cleanupFiles cutoff limit =>
    obtain ⟨_, done, _⟩ := Stateful.run_map_eq_ok run
    rcases UploadSettings.cleanupExpiredFiles_eq_ok done with rfl | ⟨ids, rfl⟩ <;> rfl

/-- Whatever a call does to the registry is one of these steps. -/
theorem perform_endpoints (s : Store) (x : Transaction) :
    EndpointRows.Step s.tables.endpoints x (s.perform x).1 (s.perform x).2.tables.endpoints := by
  rcases s.perform_cases x with ⟨e, failed, kept, _⟩ | ⟨reply, u, run, performed, _⟩
  · rw [kept]
    exact .kept (.inr (by rw [failed]; rfl))
  rw [performed]
  change EndpointRows.Step s.tables.endpoints x (.ok reply) u.tables.endpoints
  obtain ⟨db, now, call⟩ := x
  by_cases isNew : ∃ request, call = .createEndpoint request
  · obtain ⟨request, rfl⟩ := isNew
    obtain ⟨endpoint, created, _⟩ := Stateful.run_map_eq_ok run
    rw [registerEndpoint, Work.freshId_part, Work.run_freshId_bind, Work.statement_part,
      Work.run_onEndpoints] at created
    split at created
    · cases created
    · rename_i made
      cases created
      obtain ⟨addressed, rfl⟩ := EndpointRows.create_eq_ok made
      exact .registered endpoint rfl addressed
  · cases reworks : call.reworksRegistry with
    | false =>
      rw [endpoints_of_ok run reworks fun request same => isNew ⟨request, same⟩]
      exact .kept (.inl reworks)
    | true =>
      cases call with
      | updateEndpoint id change =>
        obtain ⟨endpoint, updated, _⟩ := Stateful.run_map_eq_ok run
        rw [Work.statement_part, Work.run_onEndpoints] at updated
        split at updated
        · cases updated
        · rename_i made
          cases updated
          obtain ⟨before, found, _, rfl⟩ := EndpointRows.update_eq_ok made
          exact .changed rfl rfl found
      | deleteEndpoint id =>
        obtain ⟨there, removed, _⟩ := Stateful.run_map_eq_ok run
        cases removed
        exact .removed rfl rfl
      | _ => cases reworks

end Store

namespace EndpointRows
variable {rows rows' : EndpointRows} {id : Uuid} {x : Transaction} {reply : Except Error Reply}

/-- The endpoint of this identifier is there, with a blank address. -/
def isBlankAt (rows : EndpointRows) (id : Uuid) : Bool :=
  (rows.get? id).any fun endpoint => isBlankText endpoint.url

theorem get?_append {endpoint : WebhookEndpoint} :
    get? (rows ++ [endpoint]) id =
      (rows.get? id).or (if endpoint.id = id then some endpoint else none) := by
  rw [get?, List.find?_append, List.find?_singleton]
  simp only [decide_eq_true_eq]
  rfl

theorem id_of_get? {endpoint : WebhookEndpoint} (found : rows.get? id = some endpoint) :
    endpoint.id = id := by
  simpa only [decide_eq_true_eq] using List.find?_some found

theorem get?_changed {target : Uuid} {endpoint : WebhookEndpoint} (changed : WebhookEndpoint)
    (found : rows.get? target = some endpoint) (same : changed.id = endpoint.id) (id : Uuid) :
    get? (rows.map fun row => if row.id = target then changed else row) id =
      if id = target then some changed else rows.get? id := by
  obtain rfl : changed.id = target := same.trans (id_of_get? found)
  have replaced : _ = (rows.get? id).map _ := find?_replace WebhookEndpoint.id rows changed id
  refine replaced.trans ?_
  split
  · rename_i isId
    rw [isId, found, Option.map_some, if_pos (id_of_get? found)]
  · rename_i other
    cases at_id : rows.get? id with
    | none => rfl
    | some row => rw [Option.map_some, if_neg fun isRow => other ((id_of_get? at_id).symm.trans isRow)]

theorem get?_removed {target : Uuid} :
    get? (rows.filter (·.id ≠ target)) id = if id = target then none else rows.get? id := by
  rw [get?, List.find?_filter]
  split
  · rename_i isId
    rw [List.find?_eq_none]
    intro row _ selected
    simp only [decide_eq_true_eq] at selected
    exact selected.1 (selected.2.trans isId)
  · rename_i other
    refine congrArg (List.find? · rows) (funext fun row => decide_eq_decide.mpr ?_)
    simp only [decide_eq_true_eq, and_iff_right_iff_imp]
    exact fun isRow isTarget => other (isRow.symm.trans isTarget)

theorem Step.isBlankAt_eq (step : Step rows x reply rows') (id : Uuid) :
    rows'.isBlankAt id =
      if reply.isOk then (x.call.leavesBlank? id).getD (rows.isBlankAt id) else rows.isBlankAt id := by
  cases step with
  | kept idle =>
    rcases idle with other | failed
    · rw [Call.leavesBlank?_of_not_reworks other, Option.getD_none, ite_self]
    · rw [failed, if_neg Bool.false_ne_true]
  | registered endpoint isCall addressed =>
    rw [isCall, Call.leavesBlank?_of_not_reworks rfl, Option.getD_none, ite_self, isBlankAt,
      get?_append, isBlankAt]
    cases rows.get? id with
    | some row => rfl
    | none =>
      split
      · exact addressed
      · rfl
  | @changed target change endpoint isCall done found =>
    have at_id := get?_changed (amended endpoint change x.now) found rfl id
    rw [isBlankAt, at_id, isCall, if_pos done, Call.leavesBlank?]
    by_cases same : target = id
    · rw [if_pos same, if_pos same.symm, isBlankAt, ← same, found, amended]
      cases change.url <;> rfl
    · rw [if_neg same, if_neg (Ne.symm same)]
      rfl
  | @removed target isCall done =>
    rw [isBlankAt, get?_removed, isCall, if_pos done, Call.leavesBlank?]
    by_cases same : target = id
    · rw [if_pos same, if_pos same.symm]
      rfl
    · rw [if_neg same, if_neg (Ne.symm same)]
      rfl

/-- Rows with a blank address are found by their identifiers. -/
def BlanksFound (rows : EndpointRows) : Prop :=
  ∀ row ∈ rows, isBlankText row.url = true → rows.isBlankAt row.id = true

theorem Step.blanksFound (step : Step rows x reply rows') (before : rows.BlanksFound) :
    rows'.BlanksFound := by
  cases step with
  | kept _ => exact before
  | registered endpoint isCall addressed =>
    intro row member blank
    rcases List.mem_append.mp member with old | new
    · have found := before row old blank
      rw [isBlankAt, get?_append]
      rw [isBlankAt] at found
      cases at_id : rows.get? row.id with
      | some first => rwa [at_id] at found
      | none =>
        rw [at_id] at found
        cases found
    · rw [List.mem_singleton.mp new, addressed] at blank
      cases blank
  | @changed target change endpoint isCall done found =>
    intro row member blank
    have at_id := get?_changed (amended endpoint change x.now) found rfl row.id
    rw [isBlankAt, at_id]
    obtain ⟨old, there, rfl⟩ := List.mem_map.mp member
    by_cases same : old.id = target
    · have isTarget : endpoint.id = target := id_of_get? found
      rw [if_pos same] at blank ⊢
      rw [amended, if_pos isTarget]
      exact blank
    · rw [if_neg same] at blank ⊢
      rw [if_neg same]
      exact before old there blank
  | @removed target isCall done =>
    intro row member blank
    obtain ⟨there, other⟩ := List.mem_filter.mp member
    rw [isBlankAt, get?_removed, if_neg (of_decide_eq_true other)]
    exact before row there blank

theorem BlanksFound.exists_iff (found : rows.BlanksFound) :
    (∃ row ∈ rows, isBlankText row.url = true) ↔ ∃ id, rows.isBlankAt id = true := by
  constructor
  · rintro ⟨row, member, blank⟩
    exact ⟨row.id, found row member blank⟩
  · rintro ⟨id, there⟩
    rw [isBlankAt] at there
    cases at_id : rows.get? id with
    | none =>
      rw [at_id] at there
      cases there
    | some row =>
      rw [at_id] at there
      exact ⟨row, List.mem_of_find?_eq_some at_id, there⟩

end EndpointRows

namespace Store

/-- The call, made in the store `s`, succeeds, and settles that the endpoint is there with a blank
address, or that it is not. -/
def Settles (s : Store) (x : Transaction) (id : Uuid) (isBlank : Bool) : Prop :=
  (s.perform x).1.isOk = true ∧ x.call.leavesBlank? id = some isBlank

theorem isBlankAt_perform_iff (s : Store) (x : Transaction) (id : Uuid) :
    EndpointRows.isBlankAt (s.perform x).2.tables.endpoints id = true ↔
      s.Settles x id true ∨
        EndpointRows.isBlankAt s.tables.endpoints id = true ∧ ¬ s.Settles x id false := by
  rw [(s.perform_endpoints x).isBlankAt_eq id]
  unfold Settles
  cases (s.perform x).1.isOk with
  | false => simp
  | true => rcases x.call.leavesBlank? id with _ | _ | _ <;> simp

/-- No call of the run does what is told of. -/
def Spared (does : Store → Transaction → Prop) (s : Store) (run : List Transaction) : Prop :=
  ∀ before x rest, run = before ++ x :: rest → ¬ does (s.after before) x

/-- Some call of the run sets what no later one clears. -/
def LastSet (sets clears : Store → Transaction → Prop) (s : Store) (run : List Transaction) : Prop :=
  ∃ before x rest, run = before ++ x :: rest ∧ sets (s.after before) x ∧
    Spared clears (s.after (before ++ [x])) rest

variable {sets clears : Store → Transaction → Prop} {s : Store} {x : Transaction}
  {rest : List Transaction}

theorem spared_cons_iff :
    Spared clears s (x :: rest) ↔ ¬ clears s x ∧ Spared clears (s.perform x).2 rest := by
  constructor
  · intro spared
    refine ⟨spared [] x rest rfl, fun before y others split => ?_⟩
    exact spared (x :: before) y others (by rw [split]; rfl)
  · rintro ⟨first, spared⟩ before y others split
    cases before with
    | nil =>
      obtain ⟨rfl, _⟩ := List.cons.inj split
      exact first
    | cons z before =>
      obtain ⟨rfl, isRest⟩ := List.cons.inj split
      exact spared before y others isRest

theorem lastSet_cons_iff : LastSet sets clears s (x :: rest) ↔
    sets s x ∧ Spared clears (s.perform x).2 rest ∨ LastSet sets clears (s.perform x).2 rest := by
  constructor
  · rintro ⟨before, y, others, split, isSet, spared⟩
    cases before with
    | nil =>
      obtain ⟨rfl, rfl⟩ := List.cons.inj split
      exact .inl ⟨isSet, spared⟩
    | cons z before =>
      obtain ⟨rfl, isRest⟩ := List.cons.inj split
      exact .inr ⟨before, y, others, isRest, isSet, spared⟩
  · rintro (⟨isSet, spared⟩ | ⟨before, y, others, split, isSet, spared⟩)
    · exact ⟨[], x, rest, rfl, isSet, spared⟩
    · exact ⟨x :: before, y, others, by rw [split]; rfl, isSet, spared⟩

/-- What each call sets, clears or leaves as it is holds after a run because of the last call that
decided on it, or because no call did and it held before. -/
theorem after_iff_lastSet (holds : Store → Prop)
    (step : ∀ s x, holds (s.perform x).2 ↔ sets s x ∨ holds s ∧ ¬ clears s x) (s : Store)
    (run : List Transaction) :
    holds (s.after run) ↔ LastSet sets clears s run ∨ holds s ∧ Spared clears s run := by
  induction run generalizing s with
  | nil =>
    have none : ¬ LastSet sets clears s [] := by
      rintro ⟨before, x, rest, split, _⟩
      cases before <;> cases split
    have all : Spared clears s [] := by
      intro before x rest split
      cases before <;> cases split
    simp only [after_nil, none, all, and_true, false_or]
  | cons x rest ih =>
    rw [after_cons, ih, step, spared_cons_iff, lastSet_cons_iff]
    tauto

theorem after_blanksFound (run : List Transaction) :
    EndpointRows.BlanksFound (({} : Store).after run).tables.endpoints := by
  induction run using List.reverseRecOn with
  | nil => exact fun _ member => absurd member List.not_mem_nil
  | append_singleton before x ih =>
    rw [after_append, after_cons, after_nil]
    exact (perform_endpoints _ x).blanksFound ih

/-- Exactly when there is an endpoint that cannot be addressed: a change has given one a blank address,
and since then it was neither removed nor given another. -/
theorem blank_address_iff (run : List Transaction) :
    (∃ endpoint ∈ (({} : Store).after run).tables.endpoints, isBlankText endpoint.url = true) ↔
      ∃ id before x rest, run = before ++ x :: rest ∧ (({} : Store).after before).Settles x id true ∧
        Spared (fun s y => s.Settles y id false) (({} : Store).after (before ++ [x])) rest := by
  rw [(after_blanksFound run).exists_iff]
  refine exists_congr fun id => ?_
  have empty : ¬ EndpointRows.isBlankAt ({} : Store).tables.endpoints id = true := Bool.false_ne_true
  exact (after_iff_lastSet (EndpointRows.isBlankAt ·.tables.endpoints id = true)
    (isBlankAt_perform_iff · · id) {} run).trans (or_iff_left fun holds => empty holds.1)

/-- Registering an endpoint without an address is refused; changing it to none is not. -/
example :
    let call : Call → Transaction := fun call => ⟨{}, ⟨1767225600, 0⟩, call⟩
    let s := ({} : Store).after [call (.createEndpoint ⟨"http://a.test", "s", []⟩),
      call (.createEndpoint ⟨" \t", "s", []⟩),
      call (.updateEndpoint (Uuid.ofSerial 0) { url := some " \t" })]
    s.tables.endpoints.map (·.url) = [" \t"] := by
  decide +kernel

end Store

end OutboxRelay
