import OutboxRelay.Config.Environment

namespace OutboxRelay

/-- How many connections are kept and for how long. There are never fewer allowed than kept
ready. -/
structure PoolConfig where
  maxConnections : Nat := 10
  minConnections : Nat := 1
  acquireTimeout : Span := Span.ofSeconds 30
  idleTimeout : Option Span := some (Span.ofSeconds 600)
  maxLifetime : Option Span := some (Span.ofSeconds 1800)
  deriving DecidableEq, Repr

namespace PoolConfig

/-- At least one; the least number is lowered to it. -/
def withMaxConnections (config : PoolConfig) (count : Nat) : PoolConfig :=
  let most := max count 1
  { config with maxConnections := most, minConnections := min config.minConnections most }

def withMinConnections (config : PoolConfig) (count : Nat) : PoolConfig :=
  { config with minConnections := min count config.maxConnections }

def withAcquireTimeout (config : PoolConfig) (span : Span) : PoolConfig :=
  { config with acquireTimeout := span }

def withIdleTimeout (config : PoolConfig) (span : Option Span) : PoolConfig :=
  { config with idleTimeout := span }

def withMaxLifetime (config : PoolConfig) (span : Option Span) : PoolConfig :=
  { config with maxLifetime := span }

def ofEnvironment (env : Environment) : PoolConfig :=
  let base : PoolConfig := {}
  let most := (env.nat32? "DB_MAX_CONNECTIONS").getD base.maxConnections
  let least := (env.nat32? "DB_MIN_CONNECTIONS").getD base.minConnections
  let acquire := (env.seconds? "DB_ACQUIRE_TIMEOUT_SECS").getD base.acquireTimeout
  ((base.withMaxConnections most).withMinConnections least).withAcquireTimeout acquire

end PoolConfig

end OutboxRelay
