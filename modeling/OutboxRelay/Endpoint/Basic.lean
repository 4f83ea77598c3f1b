import OutboxRelay.Instant.Rfc3339
import OutboxRelay.Uuid

namespace OutboxRelay

/-- A subscriber. -/
structure WebhookEndpoint where
  id : Uuid
  url : String
  secret : String
  eventTypes : List String
  isActive : Bool
  createdAt : Instant
  updatedAt : Instant
  deriving Repr, DecidableEq

namespace WebhookEndpoint

/-- An endpoint without event types takes every event. -/
def isCatchAll (endpoint : WebhookEndpoint) : Bool := endpoint.eventTypes.isEmpty

/-- Types are compared as they are, without patterns. -/
def subscribesTo (endpoint : WebhookEndpoint) (eventType : String) : Bool :=
  endpoint.isCatchAll || endpoint.eventTypes.contains eventType

end WebhookEndpoint

/-- An endpoint to be registered. -/
structure NewEndpoint where
  url : String
  secret : String
  eventTypes : List String := []
  deriving Repr, DecidableEq

/-- Changes to an endpoint; what is not given stays. -/
structure EndpointChange where
  url : Option String := none
  secret : Option String := none
  eventTypes : Option (List String) := none
  isActive : Option Bool := none
  deriving Repr, DecidableEq

/-- The outcome of one request to one endpoint. -/
structure DeliveryResult where
  ok : Bool
  statusCode : Option Nat
  error : String
  deriving Repr, DecidableEq

namespace DeliveryResult

def success (status : Nat) : DeliveryResult := ⟨true, some status, ""⟩

def failure (status : Option Nat) (error : String) : DeliveryResult := ⟨false, status, error⟩

end DeliveryResult

end OutboxRelay
