import OutboxRelay.Outbox.Codec

namespace OutboxRelay

inductive SweepKind
  | delivery
  | retention
  | uploadCleanup
  deriving DecidableEq, Repr

namespace SweepKind

def all : List SweepKind := [.delivery, .retention, .uploadCleanup]

def name : SweepKind → String
  | .delivery => "delivery"
  | .retention => "retention"
  | .uploadCleanup => "upload_cleanup"

end SweepKind

/-- What the worker tells its observers. -/
inductive WorkerEvent
  | started
  | delivered (stats : DeliveryStats)
  | cleaned (stats : CleanupStats)
  | uploadsCleaned (stats : CleanupStats)
  | failed (sweep : SweepKind) (error : String)
  | stopped
  deriving DecidableEq, Repr

/-- How many events an observer may be behind. -/
def eventCapacity : Nat := 64

namespace WorkerEvent

/-- The event of a delivery sweep that ended. -/
def ofDelivery : Except Error DeliveryStats → WorkerEvent
  | .ok stats => .delivered stats
  | .error e => .failed .delivery e.text

def ofRetention : Except Error CleanupStats → WorkerEvent
  | .ok stats => .cleaned stats
  | .error e => .failed .retention e.text

def ofUploadCleanup : Except Error CleanupStats → WorkerEvent
  | .ok stats => .uploadsCleaned stats
  | .error e => .failed .uploadCleanup e.text

/-- The event of a sweep that ended with `result`. A retry that cannot be scheduled is a panic. -/
def of? {α : Type} (event : Except Error α → WorkerEvent) (result : Except Error α) :
    Option WorkerEvent :=
  match result with
  | .error (.unschedulable _) => none
  | _ => some (event result)

def toJson : WorkerEvent → Json
  | .started => Json.object [("event", .str "started")]
  | .delivered stats => Json.object [("event", .str "delivery"), ("stats", stats.toJson)]
  | .cleaned stats => Json.object [("event", .str "retention"), ("stats", stats.toJson)]
  | .uploadsCleaned stats =>
    Json.object [("event", .str "upload_cleanup"), ("stats", stats.toJson)]
  | .failed sweep error =>
    Json.object [("event", .str "failed"), ("sweep", .str sweep.name), ("error", .str error)]
  | .stopped => Json.object [("event", .str "stopped")]

end WorkerEvent

end OutboxRelay
