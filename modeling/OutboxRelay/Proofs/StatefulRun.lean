import OutboxRelay.Error

namespace OutboxRelay

/-! Computations over a state `σ` that goes on from where a failed step left it. -/

namespace Stateful
variable {σ α β : Type}

@[simp] theorem run_pure (a : α) (s : σ) :
    (pure a : ExceptT Error (StateM σ) α).run s = (.ok a, s) := rfl

@[simp] theorem run_lift (x : Except Error α) (s : σ) :
    (liftM x : ExceptT Error (StateM σ) α).run s = (x, s) := by
  cases x <;> rfl

/-- The rest runs where the first step ended, unless that failed. -/
theorem run_bind (w : ExceptT Error (StateM σ) α) (f : α → ExceptT Error (StateM σ) β) (s : σ) :
    (w >>= f).run s = match w.run s with
      | (.ok a, v) => (f a).run v
      | (.error e, v) => (.error e, v) := by
  change StateT.bind w (ExceptT.bindCont f) s = _
  unfold StateT.bind
  change (match w.run s with | (a, v) => ExceptT.bindCont f a v) = _
  rcases w.run s with ⟨_ | _, v⟩ <;> rfl

theorem run_bind_ok {w : ExceptT Error (StateM σ) α} {f : α → ExceptT Error (StateM σ) β}
    {s v : σ} {a : α} (first : w.run s = (.ok a, v)) : (w >>= f).run s = (f a).run v := by
  rw [run_bind, first]

theorem run_bind_error {w : ExceptT Error (StateM σ) α} {f : α → ExceptT Error (StateM σ) β}
    {s v : σ} {e : Error} (first : w.run s = (.error e, v)) :
    (w >>= f).run s = (.error e, v) := by
  rw [run_bind, first]

/-- A computation of two parts succeeds if both do. -/
theorem run_bind_eq_ok_iff {w : ExceptT Error (StateM σ) α} {f : α → ExceptT Error (StateM σ) β}
    {s s' : σ} {b : β} :
    (w >>= f).run s = (.ok b, s') ↔ ∃ a v, w.run s = (.ok a, v) ∧ (f a).run v = (.ok b, s') := by
  rw [run_bind]
  constructor
  · intro run
    rcases first : w.run s with ⟨e | a, v⟩
    · rw [first] at run
      cases run
    · rw [first] at run
      exact ⟨a, v, rfl, run⟩
  · rintro ⟨a, v, first, rest⟩
    rw [first]
    exact rest

theorem run_map (g : α → β) (w : ExceptT Error (StateM σ) α) (s : σ) :
    (g <$> w).run s = ((w.run s).1.map g, (w.run s).2) := by
  rw [map_eq_pure_bind, run_bind]
  rcases w.run s with ⟨_ | _, v⟩ <;> rfl

theorem run_map_eq_ok {g : α → β} {w : ExceptT Error (StateM σ) α} {s s' : σ} {b : β}
    (run : (g <$> w).run s = (.ok b, s')) :
    ∃ a, w.run s = (.ok a, s') ∧ b = g a := by
  rw [run_map] at run
  rcases first : w.run s with ⟨e | a, v⟩
  · rw [first] at run
    cases run
  · rw [first] at run
    cases run
    exact ⟨a, rfl, rfl⟩

end Stateful

end OutboxRelay
