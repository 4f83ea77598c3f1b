import OutboxRelay.Store.Endpoints
import OutboxRelay.Store.Uploads

namespace OutboxRelay

/-- A handle on the store: where events are put directly, and where uploads put theirs. -/
structure Database where
  outbox : OutboxSettings := {}
  uploads : UploadSettings := {}
  deriving DecidableEq, Repr

namespace Database

/-- Uploads put their events where the outbox settings say. -/
def assemble (outbox : OutboxSettings) : Database := { outbox, uploads := { outbox } }

def withTrigger (db : Database) (trigger : Trigger) : Database :=
  assemble { db.outbox with trigger }

def withOutboxTable (db : Database) (table : OutboxTable) : Database :=
  assemble { db.outbox with table }

end Database

namespace Work

/-- Runs an operation on the endpoint registry. -/
def onEndpoints {α : Type} (operation : EndpointRows → Except Error (α × EndpointRows)) :
    Work α := do
  let t ← tables
  match operation t.endpoints with
  | .error e => throw e
  | .ok (a, rows) =>
    setTables { t with endpoints := rows }
    return a

end Work

/-- Registers an endpoint under a new identifier. -/
def registerEndpoint {m : Type → Type} [Monad m] [MonadStore m] (now : Instant)
    (request : NewEndpoint) : m WebhookEndpoint := do
  let id ← MonadStore.freshId
  MonadStore.statement (Work.onEndpoints fun rows => EndpointRows.create rows id request now)

end OutboxRelay
