import OutboxRelay.Digest.Hmac
import OutboxRelay.Text.Digits

namespace OutboxRelay

/-- The keyed digest of a body under the secret of an endpoint, in hexadecimal. -/
def signature (secret : String) (body : List UInt8) : String :=
  hexText (hmacSha256 (octetsOf secret) body)

end OutboxRelay
