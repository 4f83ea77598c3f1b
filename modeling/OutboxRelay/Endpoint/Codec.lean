import OutboxRelay.Endpoint.Basic
import OutboxRelay.Json.Decoder

namespace OutboxRelay

namespace Decoder

def webhookEndpoint : Decoder WebhookEndpoint := fun tree depth => do
  let fields ← record? ["id", "url", "secret", "event_types", "is_active", "created_at",
    "updated_at"] 0 tree depth
  return {
    id := ← field "id" uuid fields depth
    url := ← field "url" text fields depth
    secret := ← field "secret" text fields depth
    eventTypes := ← field "event_types" (list text) fields depth
    isActive := ← field "is_active" bool fields depth
    createdAt := ← field "created_at" instant fields depth
    updatedAt := ← field "updated_at" instant fields depth }

/-- Without event types an endpoint takes all of them. -/
def newEndpoint : Decoder NewEndpoint := fun tree depth => do
  let fields ← record? ["url", "secret", "event_types"] 1 tree depth
  return {
    url := ← field "url" text fields depth
    secret := ← field "secret" text fields depth
    eventTypes := ← fieldOr "event_types" (list text) [] fields depth }

def endpointChange : Decoder EndpointChange := fun tree depth => do
  let fields ← record? ["url", "secret", "event_types", "is_active"] 0 tree depth
  return {
    url := ← fieldOr "url" (option text) none fields depth
    secret := ← fieldOr "secret" (option text) none fields depth
    eventTypes := ← fieldOr "event_types" (option (list text)) none fields depth
    isActive := ← fieldOr "is_active" (option bool) none fields depth }

def deliveryResult : Decoder DeliveryResult := fun tree depth => do
  let fields ← record? ["ok", "status_code", "error"] 0 tree depth
  return {
    ok := ← field "ok" bool fields depth
    statusCode := ← fieldOr "status_code" (option (nat 65535)) none fields depth
    error := ← field "error" text fields depth }

end Decoder

/-- Everything but the secret. -/
def WebhookEndpoint.toJson (e : WebhookEndpoint) : Json :=
  Json.object [
    ("id", Json.ofUuid e.id),
    ("url", .str e.url),
    ("event_types", Json.strings e.eventTypes),
    ("is_active", .bool e.isActive),
    ("created_at", Json.ofInstant e.createdAt),
    ("updated_at", Json.ofInstant e.updatedAt)]

def NewEndpoint.toJson (e : NewEndpoint) : Json :=
  Json.object [("url", .str e.url), ("secret", .str e.secret),
    ("event_types", Json.strings e.eventTypes)]

def EndpointChange.toJson (c : EndpointChange) : Json :=
  Json.object [
    ("url", Json.ofOption .str c.url),
    ("secret", Json.ofOption .str c.secret),
    ("event_types", Json.ofOption Json.strings c.eventTypes),
    ("is_active", Json.ofOption .bool c.isActive)]

def DeliveryResult.toJson (r : DeliveryResult) : Json :=
  Json.object [
    ("ok", .bool r.ok),
    ("status_code", Json.ofOption Json.ofNat r.statusCode),
    ("error", .str r.error)]

instance : Wire WebhookEndpoint := ⟨Decoder.webhookEndpoint, WebhookEndpoint.toJson⟩

instance : Wire NewEndpoint := ⟨Decoder.newEndpoint, NewEndpoint.toJson⟩

instance : Wire EndpointChange := ⟨Decoder.endpointChange, EndpointChange.toJson⟩

instance : Wire DeliveryResult := ⟨Decoder.deliveryResult, DeliveryResult.toJson⟩

end OutboxRelay
