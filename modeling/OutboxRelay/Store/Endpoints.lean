import OutboxRelay.Store.Tables
import OutboxRelay.Text.Blank

namespace OutboxRelay

/-- The rows of the endpoint registry. -/
abbrev EndpointRows := List WebhookEndpoint

namespace EndpointRows

/-- Registers an endpoint, active from the beginning. Its address must not be blank. -/
def create (rows : EndpointRows) (id : Uuid) (request : NewEndpoint) (now : Instant) :
    Except Error (WebhookEndpoint × EndpointRows) :=
  if isBlankText request.url then .error (.invalidInput "endpoint url must not be empty")
  else do
    checkTexts (request.url :: request.secret :: request.eventTypes)
    let endpoint : WebhookEndpoint := {
      id
      url := request.url
      secret := request.secret
      eventTypes := request.eventTypes
      isActive := true
      createdAt := now.stored
      updatedAt := now.stored }
    return (endpoint, rows ++ [endpoint])

def get? (rows : EndpointRows) (id : Uuid) : Option WebhookEndpoint :=
  rows.find? (·.id = id)

/-- The endpoint with what the change gives. -/
def amended (endpoint : WebhookEndpoint) (change : EndpointChange) (now : Instant) :
    WebhookEndpoint :=
  { endpoint with
    url := change.url.getD endpoint.url
    secret := change.secret.getD endpoint.secret
    eventTypes := change.eventTypes.getD endpoint.eventTypes
    isActive := change.isActive.getD endpoint.isActive
    updatedAt := now.stored }

def update (rows : EndpointRows) (id : Uuid) (change : EndpointChange) (now : Instant) :
    Except Error (WebhookEndpoint × EndpointRows) := do
  checkTexts (change.url.toList ++ change.secret.toList ++ change.eventTypes.getD [])
  match get? rows id with
  | none => throw (.notFound ("webhook endpoint " ++ id.text))
  | some endpoint =>
    let endpoint := amended endpoint change now
    return (endpoint, rows.map fun row => if row.id = id then endpoint else row)

/-- Whether there was such an endpoint. -/
def delete (rows : EndpointRows) (id : Uuid) : Bool × EndpointRows :=
  (rows.any (·.id = id), rows.filter (·.id ≠ id))

/-- Newest first. -/
def list (rows : EndpointRows) : List WebhookEndpoint :=
  (rows.mergeSort fun a b =>
    a.createdAt.lt b.createdAt || (a.createdAt = b.createdAt && !b.id.lt a.id)).reverse

/-- The endpoints that are sent to, in the order in which they are. -/
def listActive (rows : EndpointRows) : List WebhookEndpoint :=
  (rows.filter (·.isActive)).mergeSort fun a b => !b.id.lt a.id

end EndpointRows

end OutboxRelay
