import OutboxRelay.Text.Digits
import OutboxRelay.Text.Utf8

namespace OutboxRelay.Url

/-- Characters that no part of an address shows as they are. -/
def isControl (c : Char) : Bool := c.toNat < 0x20 || 0x7E < c.toNat

/-- What a fragment writes with percent signs. -/
def isEncodedInFragment (c : Char) : Bool :=
  isControl c || c == ' ' || c == '"' || c == '<' || c == '>' || c == Char.ofNat 0x60

/-- What a query writes with percent signs. -/
def isEncodedInQuery (c : Char) : Bool :=
  isControl c || c == ' ' || c == '"' || c == '#' || c == '<' || c == '>' || c == '\''

/-- What a path writes with percent signs. -/
def isEncodedInPath (c : Char) : Bool :=
  isEncodedInFragment c || "#?\x7b\x7d".toList.contains c

/-- What credentials write with percent signs. -/
def isEncodedInCredentials (c : Char) : Bool :=
  isEncodedInPath c || "/:;=@[\\]^|".toList.contains c

def percentOctet (b : UInt8) : List Char :=
  '%' :: (fixedHex 2 b.toNat).map Char.toUpper

/-- Writes the characters of the set as their octets in hexadecimal. A percent sign stays. -/
def percentEncode (isEncoded : Char → Bool) (cs : List Char) : List Char :=
  cs.flatMap fun c =>
    if isEncoded c then (String.utf8EncodeChar c).flatMap percentOctet else [c]

/-- The octets of a text in which a percent sign with two digits stands for an octet. -/
def percentDecode : List Char → List UInt8
  | '%' :: a :: b :: rest =>
    match hexValue? a, hexValue? b with
    | some high, some low => UInt8.ofNat (16 * high + low) :: percentDecode rest
    | _, _ => String.utf8EncodeChar '%' ++ percentDecode (a :: b :: rest)
  | c :: rest => String.utf8EncodeChar c ++ percentDecode rest
  | [] => []

end OutboxRelay.Url
