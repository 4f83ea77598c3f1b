import OutboxRelay.Proofs.OneUnit

namespace OutboxRelay

theorem Tables.setOutbox_setOutbox (t : Tables) (table : OutboxTable) (rows rows' : OutboxRows) :
    (t.setOutbox table rows).setOutbox table rows' = t.setOutbox table rows' := by
  cases table <;> rfl

namespace Work
variable {α β : Type} {table : OutboxTable}

/-- Statements that do to the rows of a table what `operation` does. If one of them fails so does
`operation`; what those before it have written is left in the unit. -/
structure ActsAs (table : OutboxTable) (w : Work α)
    (operation : OutboxRows → Except Error (α × OutboxRows)) : Prop where
  ok : ∀ (u : UnitOfWork) a rows, u.isAborted = false →
    operation (u.tables.outbox table) = .ok (a, rows) →
    w.run u = (.ok a, { u with tables := u.tables.setOutbox table rows })
  error : ∀ (u : UnitOfWork) e, u.isAborted = false →
    operation (u.tables.outbox table) = .error e → ∃ v, w.run u = (.error e, v) ∧ v.serial = u.serial

theorem actsAs_onOutbox (operation : OutboxRows → Except Error (α × OutboxRows)) :
    ActsAs table (onOutbox table operation) operation where
  ok u a rows usable done := by rw [run_onOutbox table operation usable, done]
  error u e usable failed := by
    rw [run_onOutbox table operation usable, failed]
    exact ⟨_, rfl, rfl⟩

theorem actsAs_pure (a : α) : ActsAs table (pure a : Work α) fun rows => .ok (a, rows) where
  ok u b rows _ done := by
    cases done
    rw [Tables.setOutbox_same]
    rfl
  error u e _ failed := nomatch failed

theorem ActsAs.bind {w : Work α} {operation : OutboxRows → Except Error (α × OutboxRows)}
    {f : α → Work β} (first : ActsAs table w operation)
    (rest : α → OutboxRows → Except Error (β × OutboxRows)) (next : ∀ a, ActsAs table (f a) (rest a)) :
    ActsAs table (w >>= f) fun rows => operation rows >>= fun x => rest x.1 x.2 where
  ok u b last usable done := by
    obtain ⟨⟨a, rows⟩, begun, others⟩ := bind_eq_ok_iff.mp done
    have done := (next a).ok { u with tables := u.tables.setOutbox table rows } b last usable
      (by rwa [Tables.outbox_setOutbox])
    rw [Stateful.run_bind_ok (first.ok u a rows usable begun), done, Tables.setOutbox_setOutbox]
  error u e usable failed := by
    rcases begun : operation (u.tables.outbox table) with e' | ⟨a, rows⟩ <;> rw [begun] at failed
    · cases failed
      obtain ⟨v, run, serial⟩ := first.error u _ usable begun
      exact ⟨v, Stateful.run_bind_error run, serial⟩
    · rw [Stateful.run_bind_ok (first.ok u a rows usable begun)]
      exact (next a).error { u with tables := u.tables.setOutbox table rows } e usable
        (by rwa [Tables.outbox_setOutbox])

theorem ActsAs.congr {w : Work α} {operation operation' : OutboxRows → Except Error (α × OutboxRows)}
    (acts : ActsAs table w operation) (same : ∀ rows, operation' rows = operation rows) :
    ActsAs table w operation' := by
  rwa [funext same]

theorem ActsAs.lift_bind {x : Except Error α} {f : α → Work β}
    {rest : α → OutboxRows → Except Error (β × OutboxRows)}
    (next : ∀ a, ActsAs table (f a) (rest a)) :
    ActsAs table ((liftM x : Work α) >>= f) fun rows => x >>= fun a => rest a rows := by
  cases x with
  | error e =>
    refine ⟨fun u a rows _ done => (nomatch done), fun u e' _ failed => ?_⟩
    cases failed
    exact ⟨u, rfl, rfl⟩
  | ok a => exact next a

/-- As a transaction it is a single write: all of it is there, or nothing. -/
theorem ActsAs.atomic_map {w : Work α} {operation : OutboxRows → Except Error (α × OutboxRows)}
    (acts : ActsAs table w operation) (s : Store) (g : α → β) :
    s.atomic (g <$> w) = s.atomic (g <$> onOutbox table operation) := by
  have single : ActsAs table (onOutbox table operation) operation := actsAs_onOutbox operation
  rcases done : operation (s.begin.tables.outbox table) with e | ⟨a, rows⟩
  · obtain ⟨u, failed, left⟩ := acts.error s.begin e rfl done
    obtain ⟨v, failed', left'⟩ := single.error s.begin e rfl done
    rw [Store.atomic_map_error g failed, Store.atomic_map_error g failed', Store.rollback,
      Store.rollback, left, left']
  · rw [Store.atomic_map_ok g (acts.ok s.begin a rows rfl done),
      Store.atomic_map_ok g (single.ok s.begin a rows rfl done)]

end Work

namespace OutboxTable
variable (table : OutboxTable) (clock : Instant)

theorem fetchDue_actsAs (time : Instant) (limit : Int) (lease : Period) :
    Work.ActsAs table (table.fetchDue time limit lease clock : Work _) fun rows =>
      rows.fetchDue time limit lease clock := by
  refine .lift_bind fun claimEnd => ((Work.actsAs_onOutbox _).bind
    (fun entries rows => if entries.isEmpty then .ok (entries, rows)
      else rows.claimAll entries claimEnd clock >>= fun rows => .ok (entries, rows))
    fun entries => ?_).congr fun rows => ?_
  · cases nothing : entries.isEmpty with
    | true => exact Work.actsAs_pure entries
    | false =>
      exact ((Work.actsAs_onOutbox _).bind _ fun _ => Work.actsAs_pure entries).congr fun rows => by
        cases OutboxRows.claimAll rows entries claimEnd clock <;> rfl
  · cases rows.firstDue time limit clock <;> rfl

theorem giveBack_actsAs (entries : List OutboxEntry) :
    Work.ActsAs table (giveBack table clock entries) fun rows => rows.release entries clock := by
  induction entries with
  | nil => exact Work.actsAs_pure 0
  | cons entry rest ih =>
    exact (Work.actsAs_onOutbox _).bind _ fun count => ih.bind _ fun more => Work.actsAs_pure _

theorem settle_actsAs (transitions : List EntryTransition) :
    Work.ActsAs table (settle table clock transitions) fun rows =>
      rows.applyTransitions transitions clock := by
  induction transitions with
  | nil => exact Work.actsAs_pure []
  | cons t rest ih =>
    exact (Work.actsAs_onOutbox _).bind _ fun landed => ih.bind _ fun ids => Work.actsAs_pure _

theorem release_actsAs (entries : List OutboxEntry) :
    Work.ActsAs table (table.release entries clock : Work Nat) fun rows =>
      rows.release entries clock := by
  cases entries with
  | nil => exact Work.actsAs_pure 0
  | cons entry rest => exact table.giveBack_actsAs clock (entry :: rest)

theorem applyTransitions_actsAs (transitions : List EntryTransition) :
    Work.ActsAs table (table.applyTransitions transitions clock : Work (List Uuid)) fun rows =>
      rows.applyTransitions transitions clock := by
  cases transitions with
  | nil => exact Work.actsAs_pure []
  | cons t rest => exact table.settle_actsAs clock (t :: rest)

theorem cleanup_actsAs (cutoff : Instant) (limit : Int) :
    Work.ActsAs table (table.cleanup cutoff limit : Work CleanupStats) fun rows =>
      rows.cleanup cutoff limit := by
  refine ((Work.actsAs_onOutbox _).bind
    (fun total rows => if total = 0 then .ok (⟨0, 0⟩, rows)
      else rows.deleteExpired cutoff limit >>= fun x => .ok (⟨x.1, total - x.1⟩, x.2))
    fun total => ?_).congr fun rows => ?_
  · by_cases nothing : total = 0
    · simp only [nothing, if_true]
      exact Work.actsAs_pure _
    · simp only [nothing, if_false]
      exact (Work.actsAs_onOutbox _).bind _ fun deleted => Work.actsAs_pure _
  · rw [OutboxRows.cleanup]
    cases rows.countExpired cutoff <;> rfl

theorem requeueFailed_actsAs (ids : List Uuid) (due : Instant) :
    Work.ActsAs table (table.requeueFailed ids due clock : Work Nat) fun rows =>
      rows.requeueFailed ids due clock := by
  cases ids with
  | nil => exact Work.actsAs_pure 0
  | cons id rest => exact Work.actsAs_onOutbox fun rows => rows.renewFailed (id :: rest) due clock

end OutboxTable

end OutboxRelay
