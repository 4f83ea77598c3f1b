import OutboxRelay.Config.Transport
import OutboxRelay.Endpoint.Basic
import OutboxRelay.Http.Exchange
import OutboxRelay.Outbox.Entry
import OutboxRelay.Payload
import OutboxRelay.Signature

namespace OutboxRelay

def signatureHeader : String := "X-Webhook-Signature"

def eventHeader : String := "X-Webhook-Event"

def deliveryHeader : String := "X-Webhook-Delivery"

/-- A header value may hold any character but control characters; a tab is none. -/
def isHeaderValue (s : String) : Bool :=
  s.toList.all fun c => c == '\t' || (0x20 ≤ c.toNat && c.toNat != 0x7F)

/-- The signed request for an entry, unless the address or a header cannot be sent. -/
def deliveryRequest? (endpoint : WebhookEndpoint) (entry : OutboxEntry) : Option HttpRequest :=
  match Url.resolve? none endpoint.url with
  | some (.web url) =>
    if isHeaderValue entry.eventType then
      let body := encodeBody entry.payload
      some {
        method := .post
        url := url.withoutCredentials
        headers := [
          ("Content-Type", "application/json"),
          (signatureHeader, signature endpoint.secret (octetsOf body)),
          (eventHeader, entry.eventType),
          (deliveryHeader, entry.id.text)]
        body }
    else none
  | _ => none

/-- What a response means for a delivery. Of an error body the first characters are kept. -/
def resultOfResponse (config : TransportConfig) (response : HttpResponse) : DeliveryResult :=
  if response.isSuccess then .success response.status
  else
    .failure (some response.status)
      ("HTTP " ++ toString response.status ++ ": " ++
        String.ofList (response.text.take config.errorBodyChars))

/-- Sends an entry to an endpoint: the result, and the requests that reached a receiver. -/
def deliver (config : TransportConfig) (receiver : List HttpRequest → HttpReply)
    (endpoint : WebhookEndpoint) (entry : OutboxEntry) : DeliveryResult × List HttpRequest :=
  match deliveryRequest? endpoint entry with
  | none => (.failure none HttpFault.request.text, [])
  | some request =>
    let exchange := request.send receiver
    match exchange.outcome with
    | .ok response => (resultOfResponse config response, exchange.requests)
    | .error fault => (.failure none fault.text, exchange.requests)

end OutboxRelay
