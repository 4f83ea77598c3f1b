import OutboxRelay.Config.Environment

namespace OutboxRelay

/-- Whether the worker runs at all, and how often each sweep runs without being triggered. -/
structure WorkerConfig where
  enabled : Bool := true
  deliveryInterval : Span := Span.ofSeconds 60
  retentionInterval : Span := Span.ofSeconds 3600
  uploadCleanupInterval : Span := Span.ofSeconds 21600
  deriving DecidableEq, Repr

namespace WorkerConfig

/-- Whole seconds, at least one. -/
def interval (env : Environment) (name : String) (base : Span) : Span :=
  Span.ofSeconds (max 1 ((env.nat64? name).getD base.secs))

def ofEnvironment (env : Environment) : WorkerConfig :=
  let base : WorkerConfig := {}
  { enabled := (env.lookup "SWEEP_WORKER_ENABLED").all fun v => v != "false" && v != "0"
    deliveryInterval := interval env "SWEEP_DELIVERY_INTERVAL_SECS" base.deliveryInterval
    retentionInterval := interval env "SWEEP_RETENTION_INTERVAL_SECS" base.retentionInterval
    uploadCleanupInterval :=
      interval env "SWEEP_UPLOAD_CLEANUP_INTERVAL_SECS" base.uploadCleanupInterval }

def withEnabled (config : WorkerConfig) (enabled : Bool) : WorkerConfig :=
  { config with enabled := enabled }

def withDeliveryInterval (config : WorkerConfig) (span : Span) : WorkerConfig :=
  { config with deliveryInterval := span }

def withRetentionInterval (config : WorkerConfig) (span : Span) : WorkerConfig :=
  { config with retentionInterval := span }

def withUploadCleanupInterval (config : WorkerConfig) (span : Span) : WorkerConfig :=
  { config with uploadCleanupInterval := span }

end WorkerConfig

end OutboxRelay
