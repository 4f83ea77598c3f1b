import OutboxRelay.Config.Delivery

namespace OutboxRelay

/-- Time limits of a request, and how many characters of an error body are kept. -/
structure TransportConfig where
  connectTimeout : Span := Span.ofSeconds 10
  timeout : Span := defaultRequestTimeout
  errorBodyChars : Nat := 200
  deriving DecidableEq, Repr

namespace TransportConfig

/-- A time limit has to be positive. -/
def timeout? (env : Environment) (name : String) : Option Span :=
  (env.seconds? name).filter fun span => 0 < span.nanos

def ofEnvironment (env : Environment) : TransportConfig :=
  let base : TransportConfig := {}
  { base with
    connectTimeout := (timeout? env "WEBHOOK_CONNECT_TIMEOUT_SECS").getD base.connectTimeout
    timeout := (timeout? env "WEBHOOK_TIMEOUT_SECS").getD base.timeout }

def withConnectTimeout (config : TransportConfig) (span : Span) : TransportConfig :=
  { config with connectTimeout := span }

def withTimeout (config : TransportConfig) (span : Span) : TransportConfig :=
  { config with timeout := span }

end TransportConfig

end OutboxRelay
