import OutboxRelay.Http.ContentType
import OutboxRelay.Text.Charset

namespace OutboxRelay

/-- Header fields as they are received, in order. -/
abbrev ReceivedHeaders := List (String × List UInt8)

namespace ReceivedHeaders

/-- All values of a name; names are compared without regard to case. -/
def values (headers : ReceivedHeaders) (name : String) : List (List UInt8) :=
  (headers.filter fun field => field.1.toLower = name.toLower).map Prod.snd

def value? (headers : ReceivedHeaders) (name : String) : Option (List UInt8) :=
  (headers.values name).head?

end ReceivedHeaders

/-- The text of a header value, if it is printable ASCII. -/
def asciiText? (value : List UInt8) : Option (List Char) :=
  if value.all fun b => b == 9 || (0x20 ≤ b && b < 0x7F) then
    some (value.map fun b => Char.ofNat b.toNat)
  else none

/-- A response. Without a body the connection ended before the body was complete. -/
structure HttpResponse where
  status : Nat
  headers : ReceivedHeaders
  body : Option (List UInt8)
  deriving DecidableEq, Repr

namespace HttpResponse

def isSuccess (response : HttpResponse) : Bool :=
  200 ≤ response.status && response.status < 300

/-- The body in the character set of its content type. A body that is not complete is no text. -/
def text (response : HttpResponse) : List Char :=
  let charset := ((response.headers.value? "Content-Type").bind asciiText?).bind
    ContentType.charset?
  match response.body with
  | some octets => decodeText charset octets
  | none => []

end HttpResponse

end OutboxRelay
