import OutboxRelay.Config.Worker
import OutboxRelay.Sweep.Delivery
import OutboxRelay.Wakeup
import OutboxRelay.Worker.Event

namespace OutboxRelay

/-- What a worker between two sweeps waits for. -/
inductive WorkerSource
  | shutdown
  | wakeup
  | deliveryTick
  | retentionTick
  | uploadTick
  deriving DecidableEq, Repr

def WorkerSource.all : List WorkerSource :=
  [.shutdown, .wakeup, .deliveryTick, .retentionTick, .uploadTick]

/-- A worker looks at its sources, sleeps until one is ready, runs a sweep, or has stopped. -/
inductive WorkerPhase
  | looking
  | sleeping
  | running (sweep : SweepKind)
  | stopped
  deriving DecidableEq, Repr

/-- A worker that runs one sweep at a time. Asleep it stands in the line of the wake-up. -/
structure WorkerState where
  phase : WorkerPhase
  wakeup : Wakeup Unit
  shutdownRequested : Bool := false
  deliveryDue : Bool
  retentionDue : Bool
  uploadsDue : Bool
  hasUploads : Bool
  events : List WorkerEvent
  deriving DecidableEq, Repr

namespace WorkerState

/-- Every sweep is due at the start. Wake-ups from before are not lost. A disabled worker is over
before it began and sends nothing. -/
def start (config : WorkerConfig) (wakeup : Wakeup Unit) (hasUploads : Bool) : WorkerState :=
  { phase := if config.enabled then .looking else .stopped
    wakeup
    deliveryDue := true
    retentionDue := true
    uploadsDue := hasUploads
    hasUploads
    events := if config.enabled then [.started] else [] }

def isReady (w : WorkerState) : WorkerSource → Bool
  | .shutdown => w.shutdownRequested
  | .wakeup =>
    match w.wakeup.find? () with
    | some waiter => waiter.woken
    | none => w.wakeup.permit
  | .deliveryTick => w.deliveryDue
  | .retentionTick => w.retentionDue
  | .uploadTick => w.hasUploads && w.uploadsDue

/-- Asks for a delivery sweep, at any time. -/
def schedule (w : WorkerState) : WorkerState := { w with wakeup := w.wakeup.notify }

/-- Asks the worker to stop after the sweep that runs. One that has stopped does not hear it. -/
def shutdown (w : WorkerState) : Except Error WorkerState :=
  if w.phase = .stopped then .error (.internal "Failed to send shutdown signal")
  else .ok { w with shutdownRequested := true }

/-- The interval of a sweep has passed. -/
def tick (w : WorkerState) : SweepKind → WorkerState
  | .delivery => { w with deliveryDue := true }
  | .retention => { w with retentionDue := true }
  | .uploadCleanup => { w with uploadsDue := true }

/-- Without a ready source a worker lines up for the wake-up and sleeps. -/
def sleep (w : WorkerState) : WorkerState :=
  if w.phase = .looking ∧ WorkerSource.all.all (!w.isReady ·) then
    { w with phase := .sleeping, wakeup := (w.wakeup.wait ()).2 }
  else w

/-- The wake-up as the worker leaves it: taken, or handed on if another source was first. -/
def leaveLine (w : WorkerState) (taken : Bool) : Wakeup Unit :=
  match w.wakeup.find? () with
  | some _ => if taken then (w.wakeup.check ()).2 else (w.wakeup.drop ()).2
  | none => if taken then w.wakeup.poll.2 else w.wakeup

/-- Goes on with a source that is ready; which one that is, is left open. -/
def take (w : WorkerState) (source : WorkerSource) : WorkerState :=
  if (w.phase = .looking ∨ w.phase = .sleeping) ∧ w.isReady source then
    match source with
    | .shutdown =>
      { w with phase := .stopped, wakeup := w.leaveLine false, events := w.events ++ [.stopped] }
    | .wakeup => { w with phase := .running .delivery, wakeup := w.leaveLine true }
    | .deliveryTick =>
      { w with phase := .running .delivery, wakeup := w.leaveLine false, deliveryDue := false }
    | .retentionTick =>
      { w with phase := .running .retention, wakeup := w.leaveLine false, retentionDue := false }
    | .uploadTick =>
      { w with phase := .running .uploadCleanup, wakeup := w.leaveLine false, uploadsDue := false }
  else w

/-- The sweep that runs has ended, well or not; its event is sent. -/
def finish (w : WorkerState) (event : WorkerEvent) : WorkerState :=
  match w.phase with
  | .running _ => { w with phase := .looking, events := w.events ++ [event] }
  | _ => w

/-- The sweep that runs has panicked, and the worker is gone with it; nothing is sent. -/
def abandon (w : WorkerState) : WorkerState :=
  match w.phase with
  | .running _ => { w with phase := .stopped }
  | _ => w

end WorkerState

/-- The sweeps of a worker in a world `σ`. -/
structure WorkerSweeps (σ : Type) where
  delivery : Sweep σ DeliveryStats
  retention : Sweep σ CleanupStats
  uploadCleanup : Sweep σ CleanupStats

variable {σ : Type}

/-- Runs a sweep; it ends with an event unless it panics. -/
def WorkerSweeps.run (sweeps : WorkerSweeps σ) : SweepKind → StateM σ (Option WorkerEvent)
  | .delivery => WorkerEvent.of? .ofDelivery <$> sweeps.delivery.run
  | .retention => WorkerEvent.of? .ofRetention <$> sweeps.retention.run
  | .uploadCleanup => WorkerEvent.of? .ofUploadCleanup <$> sweeps.uploadCleanup.run

/-- Goes on with a source and runs the sweep to its end that follows from it, if one does. -/
def WorkerState.turn (w : WorkerState) (sweeps : WorkerSweeps σ) (source : WorkerSource) :
    StateM σ WorkerState := do
  let w := w.take source
  match w.phase with
  | .running sweep =>
    match ← sweeps.run sweep with
    | some event => return w.finish event
    | none => return w.abandon
  | _ => return w

end OutboxRelay
