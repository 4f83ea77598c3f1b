import OutboxRelay.Digest.Sha256

namespace OutboxRelay

/-- A key as one block: long keys are digested first, short ones filled up with zeros. -/
def hmacKeyBlock (key : List UInt8) : List UInt8 :=
  let short := if key.length ≤ 64 then key else Sha256.digest key
  short ++ List.replicate (64 - short.length) 0

/-- The keyed digest of a message. -/
def hmacSha256 (key message : List UInt8) : List UInt8 :=
  let block := hmacKeyBlock key
  let inner := Sha256.digest (block.map (· ^^^ 0x36) ++ message)
  Sha256.digest (block.map (· ^^^ 0x5c) ++ inner)

end OutboxRelay
