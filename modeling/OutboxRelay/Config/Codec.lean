import OutboxRelay.Config.Delivery
import OutboxRelay.Config.Pool
import OutboxRelay.Config.Retention
import OutboxRelay.Config.Transport
import OutboxRelay.Config.Worker
import OutboxRelay.Json.Decoder

namespace OutboxRelay

/-- With the lease that follows from the settings. -/
def DeliveryConfig.toJson (c : DeliveryConfig) : Json :=
  Json.object [
    ("batch_size", .int c.batchSize),
    ("soft_limit", Json.ofSpan c.softLimit),
    ("claim_lease", Json.ofSpan c.claimLease),
    ("effective_lease", Json.ofSpan c.effectiveLease)]

def RetentionConfig.toJson (c : RetentionConfig) : Json :=
  Json.object [("retention_hours", .int c.retentionHours), ("batch_size", .int c.batchSize)]

def UploadRetentionConfig.toJson (c : UploadRetentionConfig) : Json :=
  Json.object [("ttl_hours", .int c.ttlHours), ("batch_size", .int c.batchSize)]

def TransportConfig.toJson (c : TransportConfig) : Json :=
  Json.object [
    ("connect_timeout", Json.ofSpan c.connectTimeout),
    ("timeout", Json.ofSpan c.timeout),
    ("error_body_chars", Json.ofNat c.errorBodyChars)]

def WorkerConfig.toJson (c : WorkerConfig) : Json :=
  Json.object [
    ("enabled", .bool c.enabled),
    ("delivery_interval", Json.ofSpan c.deliveryInterval),
    ("retention_interval", Json.ofSpan c.retentionInterval),
    ("upload_cleanup_interval", Json.ofSpan c.uploadCleanupInterval)]

def PoolConfig.toJson (c : PoolConfig) : Json :=
  Json.object [
    ("max_connections", Json.ofNat c.maxConnections),
    ("min_connections", Json.ofNat c.minConnections),
    ("acquire_timeout", Json.ofSpan c.acquireTimeout),
    ("idle_timeout", Json.ofOption Json.ofSpan c.idleTimeout),
    ("max_lifetime", Json.ofOption Json.ofSpan c.maxLifetime)]

end OutboxRelay
