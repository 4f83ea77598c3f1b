import OutboxRelay.Config.Environment

namespace OutboxRelay

/-- How long one request may take if nothing else is configured. -/
def defaultRequestTimeout : Span := Span.ofSeconds 30

/-- The settings of a delivery sweep: entries per sweep, the time after which no further entry is
begun, and how long fetched entries stay hidden from other sweeps. -/
structure DeliveryConfig where
  batchSize : Int := 20
  softLimit : Span := Span.ofSeconds 200
  claimLease : Span := Span.ofSeconds 300
  deriving DecidableEq, Repr

namespace DeliveryConfig

def ofEnvironment (env : Environment) : DeliveryConfig :=
  let base : DeliveryConfig := {}
  { batchSize := max 1 ((env.int64? "OUTBOX_DELIVERY_BATCH_SIZE").getD base.batchSize)
    softLimit := (env.seconds? "OUTBOX_DELIVERY_SOFT_LIMIT_SECS").getD base.softLimit
    claimLease := (env.seconds? "OUTBOX_DELIVERY_LEASE_SECS").getD base.claimLease }

def withBatchSize (config : DeliveryConfig) (size : Int) : DeliveryConfig :=
  { config with batchSize := max 1 size }

def withSoftLimit (config : DeliveryConfig) (limit : Span) : DeliveryConfig :=
  { config with softLimit := limit }

def withClaimLease (config : DeliveryConfig) (lease : Span) : DeliveryConfig :=
  { config with claimLease := lease }

/-- The configured lease, but at least the soft limit and one request more. -/
def effectiveLease (config : DeliveryConfig) : Span :=
  config.claimLease.max (config.softLimit.saturatingAdd defaultRequestTimeout)

end DeliveryConfig

end OutboxRelay
