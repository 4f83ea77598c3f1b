import OutboxRelay.Proofs.WorkRun
import OutboxRelay.Store.Call

namespace OutboxRelay

/-- Rows grow by emission alone. The identifiers come from the numbers between `serial` and
`serial'`, in rising order; numbers that other rows or refused events took are left out. -/
inductive OutboxRows.Emitted : OutboxRows → Nat → OutboxRows → Nat → Prop
  | quiet {rows serial serial'} : serial ≤ serial' → Emitted rows serial rows serial'
  | put {rows serial between number last serial'} (settings : OutboxSettings)
      (event : NewOutboxEvent) (now : Instant) :
      Emitted rows serial between number →
      OutboxRows.insert between (settings.newEntry (Uuid.ofSerial number) event now) = .ok last →
      (settings.newEntry (Uuid.ofSerial number) event now).isReadable = true →
      number < serial' → Emitted rows serial last serial'

namespace OutboxRows

theorem Emitted.serial_le {rows rows' : OutboxRows} {serial serial' : Nat}
    (emitted : Emitted rows serial rows' serial') : serial ≤ serial' := by
  induction emitted with
  | quiet bound => exact bound
  | put _ _ _ _ _ _ bound ih => omega

theorem Emitted.later {rows rows' : OutboxRows} {serial serial' serial'' : Nat}
    (emitted : Emitted rows serial rows' serial') (bound : serial' ≤ serial'') :
    Emitted rows serial rows' serial'' := by
  cases emitted with
  | quiet bound' => exact .quiet (by omega)
  | put settings event now before inserted readable bound' =>
    exact .put settings event now before inserted readable (by omega)

theorem Emitted.trans {rows between last : OutboxRows} {serial number serial' : Nat}
    (first : Emitted rows serial between number) (second : Emitted between number last serial') :
    Emitted rows serial last serial' := by
  induction second with
  | quiet bound => exact first.later bound
  | put settings event now _ inserted readable bound ih =>
    exact .put settings event now ih inserted readable bound

end OutboxRows

namespace Work
variable {α β : Type} {table : OutboxTable} {t : Tables}

/-- From a unit that sees the outbox rows of `t`, the step only emits if it succeeds. Identifiers are
used up in any case. -/
structure EmitsFrom (table : OutboxTable) (t : Tables) (w : Work α) : Prop where
  serial_le : ∀ u : UnitOfWork, u.tables.outbox table = t.outbox table →
    u.serial ≤ (w.run u).2.serial
  emitted : ∀ (u v : UnitOfWork) (a : α), u.tables.outbox table = t.outbox table →
    w.run u = (.ok a, v) →
    OutboxRows.Emitted (u.tables.outbox table) u.serial (v.tables.outbox table) v.serial

/-- The step changes an outbox table by emission alone if it succeeds. -/
def Emits (table : OutboxTable) (w : Work α) : Prop := ∀ t, EmitsFrom table t w

/-- A step that leaves an outbox table alone and takes no identifier. -/
theorem emitsFrom_of_kept {w : Work α}
    (kept : ∀ u : UnitOfWork, u.tables.outbox table = t.outbox table →
      (w.run u).2.tables.outbox table = u.tables.outbox table ∧ (w.run u).2.serial = u.serial) :
    EmitsFrom table t w where
  serial_le u same := Nat.le_of_eq (kept u same).2.symm
  emitted u v a same run := by
    have ⟨rows, serial⟩ := kept u same
    rw [run] at rows serial
    rw [rows]
    exact .quiet (Nat.le_of_eq serial.symm)

theorem emits_pure (a : α) : Emits table (pure a : Work α) := fun _ =>
  emitsFrom_of_kept fun _ _ => ⟨rfl, rfl⟩

theorem emits_throw (e : Error) : Emits table (throw e : Work α) := fun _ =>
  emitsFrom_of_kept fun _ _ => ⟨rfl, rfl⟩

theorem EmitsFrom.bind {w : Work α} {f : α → Work β} (first : EmitsFrom table t w)
    (rest : ∀ a, Emits table (f a)) : EmitsFrom table t (w >>= f) where
  serial_le u same := by
    have begun := first.serial_le u same
    rw [Stateful.run_bind]
    rcases run : w.run u with ⟨_ | a, v⟩
    · simpa only [run] using begun
    · rw [run] at begun
      exact Nat.le_trans begun ((rest a v.tables).serial_le v rfl)
  emitted u v b same run := by
    obtain ⟨a, between, begun, others⟩ := Stateful.run_bind_eq_ok_iff.mp run
    exact (first.emitted u between a same begun).trans
      ((rest a between.tables).emitted between v b rfl others)

theorem Emits.bind {w : Work α} {f : α → Work β} (first : Emits table w)
    (rest : ∀ a, Emits table (f a)) : Emits table (w >>= f) := fun t => (first t).bind rest

theorem Emits.map {w : Work α} (g : α → β) (emits : Emits table w) : Emits table (g <$> w) := by
  rw [map_eq_pure_bind]
  exact emits.bind fun a => emits_pure (g a)

theorem EmitsFrom.bind_throw {f : α → Work β} (e : Error) :
    EmitsFrom table t ((throw e : Work α) >>= f) :=
  emitsFrom_of_kept fun _ _ => ⟨rfl, rfl⟩

theorem EmitsFrom.bind_lift {f : α → Work β} {x : Except Error α}
    (rest : ∀ a, EmitsFrom table t (f a)) : EmitsFrom table t ((liftM x : Work α) >>= f) := by
  cases x with
  | error e => exact .bind_throw e
  | ok a => exact rest a

theorem EmitsFrom.bind_freshId {f : Uuid → Work β} (rest : ∀ id, EmitsFrom table t (f id)) :
    EmitsFrom table t (freshId >>= f) where
  serial_le u same := by
    rw [run_freshId_bind]
    exact Nat.le_trans (Nat.le_succ u.serial)
      ((rest _).serial_le { u with serial := u.serial + 1 } same)
  emitted u v b same run := by
    rw [run_freshId_bind] at run
    exact (OutboxRows.Emitted.quiet (Nat.le_succ u.serial)).trans
      ((rest _).emitted { u with serial := u.serial + 1 } v b same run)

theorem emitsFrom_setTables {t' : Tables} (same : t'.outbox table = t.outbox table) :
    EmitsFrom table t (setTables t') :=
  emitsFrom_of_kept fun _ at_t => ⟨same.trans at_t.symm, rfl⟩

theorem EmitsFrom.bind_setTables {f : Unit → Work β} {t' : Tables}
    (same : t'.outbox table = t.outbox table) (rest : Emits table (f ())) :
    EmitsFrom table t (setTables t' >>= f) :=
  (emitsFrom_setTables same).bind fun _ => rest

theorem emits_tables_bind {f : Tables → Work β} (rest : ∀ t, EmitsFrom table t (f t)) :
    Emits table (tables >>= f) := fun _ => {
  serial_le u _ := by
    rw [run_tables_bind]
    exact (rest u.tables).serial_le u rfl
  emitted u v b _ run := by
    rw [run_tables_bind] at run
    exact (rest u.tables).emitted u v b rfl run }

end Work

namespace OutboxSettings
variable (settings : OutboxSettings) (now : Instant) (event : NewOutboxEvent)

theorem serial_emit (u : UnitOfWork) : ((settings.emit now event).run u).2.serial = u.serial + 1 := by
  cases aborted : u.isAborted with
  | true => rw [settings.run_emit_aborted now event aborted]
  | false =>
    rw [settings.run_emit now event aborted]
    split
    · rfl
    · split <;> rfl

theorem emit_emits (table : OutboxTable) : Work.Emits table (settings.emit now event) := fun _ => {
  serial_le u _ := by
    rw [serial_emit]
    exact Nat.le_succ _
  emitted u v entry _ run := by
    have readable := readable_of_emit run
    obtain ⟨rfl, rows, inserted, rfl⟩ := emit_eq_ok run
    by_cases same : settings.table = table
    · subst same
      rw [Tables.outbox_setOutbox]
      exact .put settings event now (.quiet (Nat.le_refl _)) inserted readable (Nat.lt_succ_self _)
    · rw [Tables.outbox_setOutbox_of_ne _ _ same]
      exact .quiet (Nat.le_succ _) }

theorem emitAll_emits (events : List NewOutboxEvent) (table : OutboxTable) :
    Work.Emits table (settings.emitAll now events) := by
  induction events with
  | nil => exact Work.emits_pure []
  | cons event rest ih =>
    rw [emitAll, List.mapM_cons]
    exact (settings.emit_emits now event table).bind fun entry => ih.bind fun entries =>
      Work.emits_pure (entry :: entries)

/-- An event that is there already changes nothing but the next identifier. -/
theorem emit_eq_duplicate {u v : UnitOfWork} {eventType key : String}
    (run : (settings.emit now event).run u = (.error (.duplicateEvent eventType key), v)) :
    v = { u with serial := u.serial + 1 } := by
  rw [settings.run_emit now event (usable_of_duplicate run)] at run
  split at run
  · cases run
    rfl
  · split at run <;> cases run

end OutboxSettings

end OutboxRelay
