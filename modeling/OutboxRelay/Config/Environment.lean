import OutboxRelay.Column
import OutboxRelay.Period
import OutboxRelay.Text.Digits

namespace OutboxRelay

/-- Variables with their values. -/
abbrev Environment := List (String × String)

namespace Environment

/-- A variable that holds no integer of 64 bits counts as missing. -/
def int64? (env : Environment) (name : String) : Option Int :=
  ((env.lookup name).bind fun text => signedDecimal? text.toList).filter fitsInt64

def nat64? (env : Environment) (name : String) : Option Nat :=
  ((env.lookup name).bind fun text => unsignedDecimal? text.toList).filter (· < 0x10000000000000000)

def nat32? (env : Environment) (name : String) : Option Nat :=
  (env.nat64? name).filter (· < 0x100000000)

def seconds? (env : Environment) (name : String) : Option Span :=
  (env.nat64? name).map Span.ofSeconds

end Environment

end OutboxRelay
