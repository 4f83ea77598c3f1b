import OutboxRelay.Endpoint.Codec
import OutboxRelay.Store.Endpoints
import OutboxRelay.Store.Outbox
import OutboxRelay.Store.Uploads

namespace OutboxRelay

namespace Tables

/-- Rows in the order in which they were created. -/
def inOrder {α : Type} (id : α → Uuid) (rows : List α) : List α :=
  rows.mergeSort fun a b => !(id b).lt (id a)

def sessionJson (t : Tables) (session : UploadSession) : Json :=
  session.toJson.merge
    (Json.object [("parts", .arr ((t.sessionParts session.id).map UploadPart.toJson))])

/-- All rows, the outbox and the endpoints newest first. -/
def toJson (t : Tables) : Json :=
  Json.object [
    ("core", .arr ((inOrder (·.id) t.core).reverse.map OutboxEntry.toJson)),
    ("portal", .arr ((inOrder (·.id) t.portal).reverse.map OutboxEntry.toJson)),
    ("endpoints", .arr ((EndpointRows.list t.endpoints).map WebhookEndpoint.toJson)),
    ("upload_batch", .arr ((inOrder (·.id) t.batches).map UploadBatch.toJson)),
    ("upload_file", .arr ((inOrder (·.id) t.files).map UploadFile.toJson)),
    ("upload_session", .arr ((inOrder (·.id) t.sessions).map t.sessionJson))]

end Tables

end OutboxRelay
