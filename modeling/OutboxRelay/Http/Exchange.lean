import OutboxRelay.Http.Message
import OutboxRelay.Url.Reference

namespace OutboxRelay

inductive HttpMethod
  | get
  | post
  deriving DecidableEq, Repr

def HttpMethod.name : HttpMethod → String
  | .get => "GET"
  | .post => "POST"

/-- Header fields in order; names are compared without regard to case. -/
abbrev HttpHeaders := List (String × String)

namespace HttpHeaders

def erase (headers : HttpHeaders) (name : String) : HttpHeaders :=
  headers.filter fun field => field.1.toLower ≠ name.toLower

end HttpHeaders

structure HttpRequest where
  method : HttpMethod
  url : Url
  headers : HttpHeaders
  body : String
  deriving DecidableEq, Repr

/-- What a receiver does with a connection: it sends something and closes it, or it does not take
it, or it never answers. -/
inductive HttpReply
  | sent (octets : List UInt8)
  | refused
  | silent
  deriving DecidableEq, Repr

/-- Why there is no response. -/
inductive HttpFault
  | timeout
  | connect
  | redirect
  | request
  deriving DecidableEq, Repr

namespace HttpFault

def className : HttpFault → String
  | .timeout => "Timeout"
  | .connect => "ConnectError"
  | .redirect => "RedirectError"
  | .request => "RequestError"

def reason : HttpFault → String
  | .timeout => "no answer in time"
  | .connect => "no connection"
  | .redirect => "too many redirects"
  | .request => "the request cannot be sent or was not answered"

def text (fault : HttpFault) : String := fault.className ++ ": " ++ fault.reason

end HttpFault

/-- Where a response sends the client. -/
inductive Redirection
  | stay
  | go (request : HttpRequest)
  | refuse
  deriving DecidableEq, Repr

/-- Statuses 301, 302 and 303 turn the request into one for the content of another address;
307 and 308 repeat it there. Without a usable address the response stands. -/
def HttpRequest.redirection (request : HttpRequest) (response : HttpResponse) : Redirection :=
  if response.status ∈ [301, 302, 303, 307, 308] then
    let location := (response.headers.value? "Location").bind utf8Text?
    match location.bind fun cs => Url.resolve? (some request.url) (String.ofList cs) with
    | none => .stay
    | some .foreign => .refuse
    | some (.web url) =>
      if response.status ∈ [307, 308] then .go { request with url }
      else .go {
        method := .get
        url
        headers := request.headers.erase "Content-Type"
        body := "" }
  else .stay

/-- The requests that reached a receiver, and what came of them. -/
structure HttpExchange where
  requests : List HttpRequest
  outcome : Except HttpFault HttpResponse

/-- How many redirects are followed. -/
def redirectLimit : Nat := 10

/-- Sends a request and follows redirects, at most `left` of them. The receiver sees all requests
of the exchange, the one to answer last. -/
def HttpRequest.follow (receiver : List HttpRequest → HttpReply) :
    Nat → List HttpRequest → HttpRequest → HttpExchange
  | left, before, request =>
    let seen := before ++ [request]
    match receiver seen with
    | .refused => ⟨before, .error .connect⟩
    | .silent => ⟨seen, .error .timeout⟩
    | .sent octets =>
      match HttpMessage.read? octets with
      | none => ⟨seen, .error .request⟩
      | some response =>
        match request.redirection response, left with
        | .stay, _ => ⟨seen, .ok response⟩
        | _, 0 => ⟨seen, .error .redirect⟩
        | .refuse, _ => ⟨seen, .error .request⟩
        | .go next, left + 1 => next.follow receiver left seen

def HttpRequest.send (request : HttpRequest) (receiver : List HttpRequest → HttpReply) :
    HttpExchange :=
  request.follow receiver redirectLimit []

end OutboxRelay
