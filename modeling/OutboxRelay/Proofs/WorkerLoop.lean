import Mathlib.Data.List.Induction
import OutboxRelay.Worker.Machine

namespace OutboxRelay

/-- The event of a sweep that ended tells its result. -/
theorem WorkerEvent.of?_eq_some {α : Type} {tell : Except Error α → WorkerEvent}
    {result : Except Error α} {event : WorkerEvent} (told : of? tell result = some event) :
    event = tell result := by
  unfold of? at told
  split at told
  · cases told
  · exact (Option.some.inj told).symm

/-- How a sweep of the worker ended. One that panicked has no result. -/
inductive SweepResult
  | delivery (result : Except Error DeliveryStats)
    (ended : (WorkerEvent.of? .ofDelivery result).isSome = true)
  | retention (result : Except Error CleanupStats)
    (ended : (WorkerEvent.of? .ofRetention result).isSome = true)
  | uploadCleanup (result : Except Error CleanupStats)
    (ended : (WorkerEvent.of? .ofUploadCleanup result).isSome = true)

namespace SweepResult

def kind : SweepResult → SweepKind
  | .delivery _ _ => .delivery
  | .retention _ _ => .retention
  | .uploadCleanup _ _ => .uploadCleanup

def event : SweepResult → WorkerEvent
  | .delivery result _ => .ofDelivery result
  | .retention result _ => .ofRetention result
  | .uploadCleanup result _ => .ofUploadCleanup result

end SweepResult

/-- A sweep that began, or one that ended. -/
inductive SweepMark
  | began (sweep : SweepKind)
  | ended (result : SweepResult)

/-- The sweep that follows from a source. -/
def WorkerSource.sweep? : WorkerSource → Option SweepKind
  | .shutdown => none
  | .wakeup => some .delivery
  | .deliveryTick => some .delivery
  | .retentionTick => some .retention
  | .uploadTick => some .uploadCleanup

/-- What happens to a worker, and what it does. A handle that is dropped stops a worker as the
signal for it does. -/
inductive WorkerAction
  | schedule
  | tick (sweep : SweepKind)
  | shutdown
  | lineUp
  | take (source : WorkerSource)
  | finish (result : SweepResult)

namespace WorkerAction

def mark? : WorkerAction → Option SweepMark
  | .take source => source.sweep?.map .began
  | .finish result => some (.ended result)
  | _ => none

def result? : WorkerAction → Option SweepResult
  | .finish result => some result
  | _ => none

end WorkerAction

/-- What the program does with a worker from one look at its sources to the next, and what others
ask of it meanwhile. -/
inductive WorkerMove
  | schedule
  | tick (sweep : SweepKind)
  | shutdown
  | sleep
  | turn (source : WorkerSource)

/-- What a move comes to. A signal to a worker that has stopped is not heard, a worker with a ready
source does not line up, and a turn to a source that is not ready comes to nothing. -/
inductive WorkerMove.ComesTo : WorkerMove → List WorkerAction → Prop
  | schedule : ComesTo .schedule [.schedule]
  | tick (sweep : SweepKind) : ComesTo (.tick sweep) [.tick sweep]
  | shutdown : ComesTo .shutdown [.shutdown]
  | unheard : ComesTo .shutdown []
  | lineUp : ComesTo .sleep [.lineUp]
  | awake : ComesTo .sleep []
  | sweep {source : WorkerSource} {result : SweepResult} : source.sweep? = some result.kind →
      ComesTo (.turn source) [.take source, .finish result]
  | stop : ComesTo (.turn .shutdown) [.take .shutdown]
  | unready (source : WorkerSource) : ComesTo (.turn source) []

/-- Whatever the world is like, no sweep panics. -/
def WorkerSweeps.Steady {σ : Type} (sweeps : WorkerSweeps σ) : Prop :=
  ∀ sweep world, ((sweeps.run sweep).run world).1.isSome = true

namespace Wakeup

/-- A line in which nobody but one may stand; `inLine` tells whether that one does. While it stands
there and is not woken, no wake-up is kept. -/
inductive Single : Wakeup Unit → Bool → Prop
  | free (permit : Bool) : Single ⟨permit, []⟩ false
  | waiting : Single ⟨false, [⟨(), false⟩]⟩ true
  | woken (permit : Bool) : Single ⟨permit, [⟨(), true⟩]⟩ true

/-- The wake-up after it was asked for a number of times and nobody was there. -/
def scheduled : Nat → Wakeup Unit
  | 0 => {}
  | count + 1 => (scheduled count).notify

variable {w : Wakeup Unit} {inLine : Bool}

theorem Single.notify (single : w.Single inLine) : w.notify.Single inLine := by
  cases single with
  | free permit => exact .free true
  | waiting => exact .woken false
  | woken permit => exact .woken true

end Wakeup

def WorkerPhase.sweep? : WorkerPhase → Option SweepKind
  | .running sweep => some sweep
  | _ => none

namespace WorkerState

/-- The worker is between two sweeps. -/
def Waits (w : WorkerState) : Prop := w.phase = .looking ∨ w.phase = .sleeping

/-- Asks for the wake-up, perhaps before the other sources, and stands in its line since there is
none. -/
def lineUp (w : WorkerState) : WorkerState :=
  { w with phase := .sleeping, wakeup := (w.wakeup.wait ()).2 }

/-- One move. A worker that has stopped hears of nothing. -/
def move {σ : Type} (w : WorkerState) (sweeps : WorkerSweeps σ) :
    WorkerMove → StateM σ WorkerState
  | .schedule => return w.schedule
  | .tick sweep => return w.tick sweep
  | .shutdown => return w.shutdown.toOption.getD w
  | .sleep => return w.sleep
  | .turn source => w.turn sweeps source

/-- Moves one after the other. -/
def moves {σ : Type} (w : WorkerState) (sweeps : WorkerSweeps σ) :
    List WorkerMove → StateM σ WorkerState
  | [] => return w
  | first :: rest => do (← w.move sweeps first).moves sweeps rest

/-- What can happen next. Left open are the times at which intervals pass, the source that a worker
goes on with if several are ready, and the result of a sweep. -/
inductive Step (w : WorkerState) : WorkerAction → WorkerState → Prop
  | schedule : Step w .schedule w.schedule
  | tick (sweep : SweepKind) : Step w (.tick sweep) (w.tick sweep)
  | shutdown {w' : WorkerState} : w.shutdown = .ok w' → Step w .shutdown w'
  | lineUp : w.phase = .looking → w.wakeup.permit = false → Step w .lineUp w.lineUp
  | take {source : WorkerSource} : w.Waits → w.isReady source = true →
      Step w (.take source) (w.take source)
  | finish {result : SweepResult} : w.phase = .running result.kind →
      Step w (.finish result) (w.finish result.event)

/-- What can happen one after the other. -/
inductive Leads (first : WorkerState) : List WorkerAction → WorkerState → Prop
  | start : Leads first [] first
  | step {actions : List WorkerAction} {w w' : WorkerState} {action : WorkerAction} :
      Leads first actions w → w.Step action w' → Leads first (actions ++ [action]) w'

/-- No one but the sleeping worker stands in its line. -/
def InLine (w : WorkerState) : Prop := w.wakeup.Single (decide (w.phase = .sleeping))

variable {w w' first : WorkerState} {action : WorkerAction} {actions : List WorkerAction}
  {source : WorkerSource}

/-! ### Steps -/

theorem shutdown_eq_ok (sent : w.shutdown = .ok w') : w' = { w with shutdownRequested := true } := by
  unfold shutdown at sent
  split at sent
  · cases sent
  · exact (Except.ok.inj sent).symm

theorem tick_keeps (w : WorkerState) (sweep : SweepKind) :
    (w.tick sweep).phase = w.phase ∧ (w.tick sweep).wakeup = w.wakeup ∧
      (w.tick sweep).events = w.events ∧
      (w.tick sweep).shutdownRequested = w.shutdownRequested := by
  cases sweep <;> exact ⟨rfl, rfl, rfl, rfl⟩

theorem take_phase (waits : w.Waits) (ready : w.isReady source = true) :
    (w.take source).phase = (source.sweep?.map .running).getD .stopped := by
  unfold take
  rw [if_pos ⟨waits, ready⟩]
  cases source <;> rfl

theorem take_wakeup (waits : w.Waits) (ready : w.isReady source = true) :
    (w.take source).wakeup = w.leaveLine (decide (source = .wakeup)) := by
  unfold take
  rw [if_pos ⟨waits, ready⟩]
  cases source <;> rfl

theorem take_events (waits : w.Waits) (ready : w.isReady source = true) :
    (w.take source).events = w.events ++ if source.sweep?.isSome then [] else [.stopped] := by
  unfold take
  rw [if_pos ⟨waits, ready⟩]
  cases source <;> simp [WorkerSource.sweep?]

theorem take_shutdownRequested (waits : w.Waits) (ready : w.isReady source = true) :
    (w.take source).shutdownRequested = w.shutdownRequested := by
  unfold take
  rw [if_pos ⟨waits, ready⟩]
  cases source <;> rfl

theorem finish_of_running {sweep : SweepKind} (running : w.phase = .running sweep)
    (event : WorkerEvent) :
    w.finish event = { w with phase := .looking, events := w.events ++ [event] } := by
  rw [finish, running]

/-- One who leaves the line takes a wake-up only if it came. A wake-up that came and was not taken
is kept. -/
theorem leaveLine_single {inLine : Bool} (single : w.wakeup.Single inLine) (taken : Bool)
    (ready : taken = true → w.isReady .wakeup = true) :
    (w.leaveLine taken).Single false ∧
      (taken = false → w.isReady .wakeup = true → (w.leaveLine taken).permit = true) := by
  obtain ⟨phase, wakeup, _, _, _, _, _, _⟩ := w
  cases single with
  | free permit =>
    cases taken with
    | false => exact ⟨.free permit, fun _ kept => kept⟩
    | true => exact ⟨.free false, nofun⟩
  | waiting =>
    cases taken with
    | false => exact ⟨.free false, fun _ none => none⟩
    | true => exact absurd (ready rfl) nofun
  | woken permit =>
    cases taken with
    | false => exact ⟨.free true, fun _ _ => rfl⟩
    | true => exact ⟨.free permit, nofun⟩

/-- One who does not stand in the line finds the wake-up that was kept. -/
theorem isReady_of_free (free : w.wakeup.Single false) : w.isReady .wakeup = w.wakeup.permit := by
  obtain ⟨phase, wakeup, _, _, _, _, _, _⟩ := w
  cases free
  rfl

theorem isReady_schedule {inLine : Bool} (single : w.wakeup.Single inLine) :
    w.schedule.isReady .wakeup = true := by
  obtain ⟨phase, wakeup, _, _, _, _, _, _⟩ := w
  cases single <;> rfl

theorem isReady_congr (same : w'.wakeup = w.wakeup) : w'.isReady .wakeup = w.isReady .wakeup := by
  rw [isReady, isReady, same]

/-- The line after a source was taken, which ends the sleep. -/
theorem take_single (line : w.InLine) (waits : w.Waits) (ready : w.isReady source = true) :
    (w.take source).wakeup.Single false ∧
      (source ≠ .wakeup → w.isReady .wakeup = true → (w.take source).wakeup.permit = true) := by
  rw [take_wakeup waits ready]
  have left := leaveLine_single line (decide (source = .wakeup)) fun isWakeup =>
    of_decide_eq_true isWakeup ▸ ready
  exact ⟨left.1, fun other => left.2 (decide_eq_false other)⟩

theorem take_not_sleeping (waits : w.Waits) (ready : w.isReady source = true) :
    (w.take source).phase ≠ .sleeping := by
  rw [take_phase waits ready]
  cases source <;> exact nofun

theorem Step.inLine (step : w.Step action w') (line : w.InLine) : w'.InLine := by
  cases step with
  | schedule => exact line.notify
  | tick sweep =>
    obtain ⟨phase, wakeup, _⟩ := w.tick_keeps sweep
    rw [InLine, phase, wakeup]
    exact line
  | shutdown sent =>
    rw [shutdown_eq_ok sent]
    exact line
  | lineUp looking empty =>
    rw [InLine, looking] at line
    obtain ⟨phase, wakeup, _, _, _, _, _, _⟩ := w
    cases line with
    | free permit =>
      cases empty
      exact .waiting
  | take waits ready =>
    rw [InLine, decide_eq_false (take_not_sleeping waits ready)]
    exact (take_single line waits ready).1
  | finish running =>
    rw [finish_of_running running]
    rw [InLine, running] at line
    exact line

/-- A wake-up that is there stays until the worker takes it. -/
theorem Step.isReady_wakeup (step : w.Step action w') (line : w.InLine)
    (other : action ≠ .take .wakeup) (ready : w.isReady .wakeup = true) :
    w'.isReady .wakeup = true := by
  cases step with
  | schedule => exact isReady_schedule line
  | tick sweep => rwa [isReady_congr (w.tick_keeps sweep).2.1]
  | shutdown sent =>
    rw [shutdown_eq_ok sent]
    exact ready
  | lineUp looking empty =>
    rw [InLine, looking] at line
    rw [isReady_of_free line, empty] at ready
    cases ready
  | take waits chosen =>
    obtain ⟨single, kept⟩ := take_single line waits chosen
    rw [isReady_of_free single]
    exact kept (fun same => other (congrArg _ same)) ready
  | finish running =>
    rw [finish_of_running running]
    exact ready

/-! ### Runs -/

theorem Leads.inLine (run : Leads first actions w) (line : first.InLine) : w.InLine := by
  induction run with
  | start => exact line
  | step _ step ih => exact step.inLine ih

theorem Leads.append {more : List WorkerAction} (before : Leads first actions w)
    (after : Leads w more w') : Leads first (actions ++ more) w' := by
  induction after with
  | start => rwa [List.append_nil]
  | step _ step ih =>
    rw [← List.append_assoc]
    exact ih.step step

/-- What was scheduled and is not taken yet is there to be taken. -/
theorem Leads.isReady_wakeup (run : Leads first actions w) (line : first.InLine)
    {before after : List WorkerAction} (isRun : actions = before ++ .schedule :: after)
    (untaken : .take .wakeup ∉ after) : w.isReady .wakeup = true := by
  induction run generalizing after with
  | start => exact absurd isRun.symm (by simp)
  | @step actions w w' action earlier step ih =>
    have inLine := earlier.inLine line
    rcases after.eq_nil_or_concat with rfl | ⟨rest, last, rfl⟩
    · obtain ⟨_, isLast⟩ := List.append_inj' isRun rfl
      cases List.singleton_inj.mp isLast
      cases step
      exact isReady_schedule inLine
    · rw [List.concat_eq_append] at isRun untaken
      rw [← List.cons_append, ← List.append_assoc] at isRun
      obtain ⟨isRest, isLast⟩ := List.append_inj' isRun rfl
      cases List.singleton_inj.mp isLast
      rw [List.mem_append, not_or, List.mem_singleton] at untaken
      exact step.isReady_wakeup inLine (fun same => untaken.2 same.symm) (ih isRest untaken.1)

/-- The sweeps of a run in the order in which they ended. -/
def results (actions : List WorkerAction) : List SweepResult :=
  actions.filterMap WorkerAction.result?

/-- What a run has come to: sweeps that began and ended one after the other, the last of which may
still run, an event for each that ended, and the end once the signal for it was taken. -/
structure Course (actions : List WorkerAction) (w : WorkerState) : Prop where
  sweeps : actions.filterMap WorkerAction.mark? =
    ((results actions).flatMap fun result => [.began result.kind, .ended result]) ++
      (w.phase.sweep?.map SweepMark.began).toList
  events : w.events = .started :: (results actions).map SweepResult.event ++
    if w.phase = .stopped then [.stopped] else []
  stopped : w.phase = .stopped ↔ .take .shutdown ∈ actions
  signalled : w.shutdownRequested = true ↔ .shutdown ∈ actions
  heard : w.phase = .stopped → .shutdown ∈ actions

@[simp] theorem results_append_singleton (actions : List WorkerAction) (action : WorkerAction) :
    results (actions ++ [action]) = results actions ++ action.result?.toList := by
  rw [results, List.filterMap_append, results]
  cases h : action.result? <;> simp [h]

/-- An action in which no sweep begins or ends. -/
theorem Course.quiet (course : Course actions w) (unmarked : action.mark? = none)
    (resultless : action.result? = none) (running : w'.phase.sweep? = w.phase.sweep?)
    (events : w'.events = w.events) (stopped : w'.phase = .stopped ↔ w.phase = .stopped)
    (signalled : w'.shutdownRequested = true ↔ w.shutdownRequested = true ∨ action = .shutdown)
    (other : action ≠ .take .shutdown) : Course (actions ++ [action]) w' := by
  refine ⟨?_, ?_, ?_, ?_, ?_⟩
  · rw [List.filterMap_append, results_append_singleton, resultless, running, course.sweeps]
    simp [unmarked]
  · rw [events, results_append_singleton, resultless, course.events]
    simp [stopped]
  · rw [stopped, course.stopped, List.mem_append, List.mem_singleton]
    simp [other.symm]
  · rw [signalled, course.signalled, List.mem_append, List.mem_singleton, eq_comm (a := action)]
  · exact fun ended => List.mem_append_left _ (course.heard (stopped.mp ended))

theorem Waits.sweep? (waits : w.Waits) : w.phase.sweep? = none := by
  rcases waits with phase | phase <;> rw [phase] <;> rfl

theorem Waits.not_stopped (waits : w.Waits) : w.phase ≠ .stopped := by
  rcases waits with phase | phase <;> rw [phase] <;> exact nofun

theorem Course.take (course : Course actions w) (waits : w.Waits) (ready : w.isReady source = true) :
    Course (actions ++ [.take source]) (w.take source) := by
  have phase := take_phase waits ready
  have events := take_events waits ready
  refine ⟨?_, ?_, ?_, ?_, ?_⟩
  · rw [List.filterMap_append, results_append_singleton, course.sweeps, waits.sweep?, phase]
    cases source <;> simp [WorkerAction.mark?, WorkerAction.result?, WorkerSource.sweep?,
      WorkerPhase.sweep?]
  · rw [events, results_append_singleton, course.events, if_neg waits.not_stopped, phase]
    cases source <;> simp [WorkerAction.result?, WorkerSource.sweep?]
  · have running : .take .shutdown ∉ actions := fun member =>
      waits.not_stopped (course.stopped.mpr member)
    rw [phase, List.mem_append, List.mem_singleton]
    cases source <;> simp [WorkerSource.sweep?, running]
  · rw [take_shutdownRequested waits ready, course.signalled, List.mem_append, List.mem_singleton]
    simp
  · rw [phase]
    cases source with
    | shutdown => exact fun _ => List.mem_append_left _ (course.signalled.mp ready)
    | _ => exact nofun

theorem Course.finish {result : SweepResult} (course : Course actions w)
    (running : w.phase = .running result.kind) :
    Course (actions ++ [.finish result]) (w.finish result.event) := by
  have sweeps := course.sweeps
  have events := course.events
  have stopped := course.stopped
  rw [running] at sweeps events stopped
  rw [finish_of_running running]
  refine ⟨?_, ?_, ?_, ?_, nofun⟩
  · rw [List.filterMap_append, results_append_singleton, sweeps]
    simp [WorkerAction.mark?, WorkerAction.result?, WorkerPhase.sweep?]
  · rw [results_append_singleton, events]
    simp [WorkerAction.result?]
  · rw [List.mem_append, List.mem_singleton, ← stopped]
    simp
  · rw [course.signalled, List.mem_append, List.mem_singleton]
    simp

theorem Course.step (course : Course actions w) (step : w.Step action w') :
    Course (actions ++ [action]) w' := by
  cases step with
  | schedule => exact course.quiet rfl rfl rfl rfl Iff.rfl (by simp [schedule]) nofun
  | tick sweep =>
    obtain ⟨phase, _, events, requested⟩ := w.tick_keeps sweep
    exact course.quiet rfl rfl (by rw [phase]) events (by rw [phase]) (by simp [requested]) nofun
  | shutdown sent =>
    rw [shutdown_eq_ok sent]
    exact course.quiet rfl rfl rfl rfl Iff.rfl (by simp) nofun
  | lineUp looking _ =>
    exact course.quiet rfl rfl (by rw [looking]; rfl) rfl (by rw [looking]; simp [lineUp])
      (by simp [lineUp]) nofun
  | take waits ready => exact course.take waits ready
  | finish running => exact course.finish running

/-! ### The program's own steps -/

/-- A worker that goes to sleep lines up. -/
theorem sleep_cases (line : w.InLine) : w.sleep = w ∨ w.Step .lineUp w.sleep := by
  unfold sleep
  split
  · rename_i asleep
    obtain ⟨looking, unready⟩ := asleep
    have free := line
    rw [InLine, looking] at free
    have none : w.isReady .wakeup = false := by
      simpa using List.all_eq_true.mp unready .wakeup (by decide)
    rw [isReady_of_free free] at none
    exact .inr (.lineUp looking none)
  · exact .inl rfl

/-- A sweep that does not panic has a result, and the event tells it. -/
theorem exists_result {σ : Type} {sweeps : WorkerSweeps σ} (steady : sweeps.Steady)
    (sweep : SweepKind) (world : σ) : ∃ result : SweepResult, result.kind = sweep ∧
      ((sweeps.run sweep).run world).1 = some result.event := by
  have ended := steady sweep world
  obtain ⟨event, isEvent⟩ := Option.isSome_iff_exists.mp ended
  rw [isEvent]
  cases sweep with
  | delivery =>
    exact ⟨.delivery (sweeps.delivery.run world).1 ended, rfl,
      congrArg some (WorkerEvent.of?_eq_some isEvent)⟩
  | retention =>
    exact ⟨.retention (sweeps.retention.run world).1 ended, rfl,
      congrArg some (WorkerEvent.of?_eq_some isEvent)⟩
  | uploadCleanup =>
    exact ⟨.uploadCleanup (sweeps.uploadCleanup.run world).1 ended, rfl,
      congrArg some (WorkerEvent.of?_eq_some isEvent)⟩

/-- A move leads from one state to another between two sweeps. -/
def Moves (w : WorkerState) (m : WorkerMove) (w' : WorkerState) : Prop :=
  ∃ actions, m.ComesTo actions ∧ Leads w actions w' ∧ w'.phase.sweep? = none

/-- A turn is a source taken and, unless that ends the worker, a sweep and its event. -/
theorem turn_leads {σ : Type} {sweeps : WorkerSweeps σ} (steady : sweeps.Steady) (world : σ)
    (waits : w.Waits) (ready : w.isReady source = true) :
    w.Moves (.turn source) ((w.turn sweeps source).run world).1 := by
  have taken : Leads w [.take source] (w.take source) := .step .start (.take waits ready)
  have phase := take_phase waits ready
  cases sweep : source.sweep? with
  | none =>
    rw [sweep] at phase
    have isStop : source = .shutdown := by cases source <;> first | rfl | cases sweep
    have stays : ((w.turn sweeps source).run world).1 = w.take source := by
      unfold turn
      simp only [phase, Option.map_none, Option.getD_none]
      rfl
    rw [stays]
    subst isStop
    refine ⟨_, .stop, taken, ?_⟩
    rw [phase]
    rfl
  | some kind =>
    rw [sweep] at phase
    obtain ⟨result, isKind, event⟩ := exists_result steady kind world
    have ends : ((w.turn sweeps source).run world).1 = (w.take source).finish result.event := by
      unfold turn
      simp only [phase, Option.map_some, Option.getD_some, StateT.run_bind]
      generalize (sweeps.run kind).run world = swept at event
      obtain ⟨_, world'⟩ := swept
      cases event
      rfl
    rw [ends]
    have running : (w.take source).phase = .running result.kind := isKind ▸ phase
    refine ⟨_, .sweep (isKind ▸ sweep), taken.step (.finish running), ?_⟩
    rw [finish_of_running running]
    rfl

theorem turn_of_unready {σ : Type} (sweeps : WorkerSweeps σ) (world : σ)
    (idle : w.phase.sweep? = none) (unready : ¬(w.Waits ∧ w.isReady source = true)) :
    ((w.turn sweeps source).run world).1 = w := by
  have stays : w.take source = w := if_neg unready
  unfold turn
  rw [stays]
  cases phase : w.phase with
  | running sweep =>
    rw [phase] at idle
    cases idle
  | _ => simp only [phase]; rfl

theorem move_leads {σ : Type} {sweeps : WorkerSweeps σ} (steady : sweeps.Steady) (world : σ)
    (line : w.InLine) (idle : w.phase.sweep? = none) (m : WorkerMove) :
    w.Moves m ((w.move sweeps m).run world).1 := by
  cases m with
  | schedule => exact ⟨_, .schedule, .step .start .schedule, idle⟩
  | tick sweep =>
    exact ⟨_, .tick sweep, .step .start (.tick sweep),
      (congrArg WorkerPhase.sweep? (w.tick_keeps sweep).1).trans idle⟩
  | shutdown =>
    change w.Moves .shutdown (w.shutdown.toOption.getD w)
    cases sent : w.shutdown with
    | error e => exact ⟨_, .unheard, .start, idle⟩
    | ok w' => exact ⟨_, .shutdown, .step .start (.shutdown sent), shutdown_eq_ok sent ▸ idle⟩
  | sleep =>
    change w.Moves .sleep w.sleep
    rcases sleep_cases line with awake | asleep
    · rw [awake]
      exact ⟨_, .awake, .start, idle⟩
    · generalize w.sleep = asleep' at asleep ⊢
      refine ⟨_, .lineUp, .step .start asleep, ?_⟩
      cases asleep
      rfl
  | turn source =>
    by_cases ready : w.Waits ∧ w.isReady source = true
    · exact turn_leads steady world ready.1 ready.2
    · change w.Moves (.turn source) ((w.turn sweeps source).run world).1
      rw [turn_of_unready sweeps world idle ready]
      exact ⟨_, .unready source, .start, idle⟩

/-- The moves of the program, one after the other, are steps of the worker. -/
theorem moves_leads {σ : Type} {sweeps : WorkerSweeps σ} (steady : sweeps.Steady) (world : σ)
    (line : w.InLine) (idle : w.phase.sweep? = none) (ms : List WorkerMove) :
    ∃ blocks, List.Forall₂ WorkerMove.ComesTo ms blocks ∧
      Leads w blocks.flatten ((w.moves sweeps ms).run world).1 := by
  induction ms generalizing w world with
  | nil => exact ⟨[], .nil, .start⟩
  | cons m rest ih =>
    obtain ⟨actions, comes, leads, idle'⟩ := move_leads steady world line idle m
    obtain ⟨blocks, others, later⟩ := ih ((w.move sweeps m).run world).2 (leads.inLine line) idle'
    exact ⟨actions :: blocks, .cons comes others, leads.append later⟩

/-! ### From the start -/

theorem start_leads (config : WorkerConfig) (hasUploads : Bool) (early : Nat) :
    Leads (start config {} hasUploads) (List.replicate early .schedule)
      (start config (.scheduled early) hasUploads) := by
  induction early with
  | zero => exact .start
  | succ early ih =>
    rw [List.replicate_succ']
    exact ih.step .schedule

theorem course_of_leads (config : WorkerConfig) (enabled : config.enabled = true)
    (hasUploads : Bool) (early : Nat)
    (run : Leads (start config (.scheduled early) hasUploads) actions w) : Course actions w := by
  induction run with
  | start => refine ⟨?_, ?_, ?_, ?_, ?_⟩ <;> simp [start, enabled, results, WorkerPhase.sweep?]
  | step _ step ih => exact ih.step step

/-- Every wake-up that was asked for was followed by the beginning of a delivery sweep. -/
def Served (actions : List WorkerAction) : Prop :=
  ∀ before after, actions = before ++ .schedule :: after →
    ∃ action ∈ after, action.mark? = some (.began .delivery)

/-- An enabled worker runs one sweep after the other, tells how each ended and goes on whatever
that was, until it takes the signal to stop. When it waits and no source is ready, no wake-up is
open, those included that were asked for before it started. All that the program does with it, unless
a sweep panics, consists of such steps. -/
theorem worker_serves_wakeups (config : WorkerConfig) (enabled : config.enabled = true)
    (hasUploads : Bool) (early : Nat)
    (run : Leads (start config (.scheduled early) hasUploads) actions w) :
    Course actions w ∧
      (∀ result : SweepResult, w.phase = .running result.kind →
        ∃ w', w.Step (.finish result) w' ∧ w'.phase = .looking) ∧
      (w.Waits → (∀ source, w.isReady source = false) →
        Served (List.replicate early .schedule ++ actions)) ∧
      ∀ {σ : Type} (sweeps : WorkerSweeps σ), sweeps.Steady → w.phase.sweep? = none →
        ∀ (ms : List WorkerMove) (world : σ), ∃ blocks, List.Forall₂ WorkerMove.ComesTo ms blocks ∧
          Leads w blocks.flatten ((w.moves sweeps ms).run world).1 := by
  have line : (start config {} hasUploads).InLine := by
    rw [InLine, start, if_pos enabled]
    exact .free false
  have whole := (start_leads config hasUploads early).append run
  refine ⟨course_of_leads config enabled hasUploads early run, ?_, ?_,
    fun sweeps steady idle ms world => moves_leads steady world (whole.inLine line) idle ms⟩
  · intro result running
    exact ⟨_, .finish running, by rw [finish_of_running running]⟩
  · intro waits unready before after isRun
    refine ⟨.take .wakeup, ?_, rfl⟩
    by_contra untaken
    have ready := whole.isReady_wakeup line isRun untaken
    rw [unready] at ready
    cases ready

def failedDelivery : SweepResult := .delivery (.error (.internal "no endpoints")) rfl

def idleDelivery : SweepResult := .delivery (.ok ⟨0, 0, 0, 0, 0, 0⟩) rfl

def idleRetention : SweepResult := .retention (.ok ⟨0, 0⟩) rfl

/-- A sweep that was asked for before the start and fails; then two wake-ups, of which the first is
handed on because an interval has passed as well. -/
def wakeupsHandedOn : List WorkerAction :=
  [.take .wakeup, .finish failedDelivery, .lineUp, .schedule, .schedule, .take .deliveryTick,
    .finish idleDelivery, .take .retentionTick, .finish idleRetention, .take .wakeup,
    .finish idleDelivery, .lineUp]

theorem worker_serves_wakeups_handed_on :
    ∃ w, Leads (start {} (.scheduled 1) false) wakeupsHandedOn w ∧ w.phase = .sleeping ∧
      (∀ source, w.isReady source = false) ∧ Course wakeupsHandedOn w ∧
      Served (.schedule :: wakeupsHandedOn) := by
  have first : Leads (start {} (.scheduled 1) false) _ _ := .start
  have failed := (first.step (.take (.inl rfl) rfl : Step _ (.take .wakeup) _)).step
    (.finish rfl : Step _ (.finish failedDelivery) _)
  have woken := ((failed.step (.lineUp rfl rfl)).step .schedule).step .schedule
  have ticked := (woken.step (.take (.inr rfl) rfl : Step _ (.take .deliveryTick) _)).step
    (.finish rfl : Step _ (.finish idleDelivery) _)
  have cleaned := (ticked.step (.take (.inl rfl) rfl : Step _ (.take .retentionTick) _)).step
    (.finish rfl : Step _ (.finish idleRetention) _)
  have delivered := (cleaned.step (.take (.inl rfl) rfl : Step _ (.take .wakeup) _)).step
    (.finish rfl : Step _ (.finish idleDelivery) _)
  obtain ⟨w, run, asleep, unready⟩ : ∃ w, Leads (start {} (.scheduled 1) false) wakeupsHandedOn w ∧
      w.phase = .sleeping ∧ ∀ source, w.isReady source = false :=
    ⟨_, delivered.step (.lineUp rfl rfl), rfl, fun source => by cases source <;> rfl⟩
  obtain ⟨course, _, served, _⟩ := worker_serves_wakeups {} rfl false 1 run
  exact ⟨w, run, asleep, unready, course, served (.inr asleep) unready⟩

end WorkerState

end OutboxRelay
