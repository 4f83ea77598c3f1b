import OutboxRelay.Config.Environment

namespace OutboxRelay

/-- Ten years. -/
def maxRetentionHours : Int := 87600

def clampHours (hours : Int) : Int := max 0 (min maxRetentionHours hours)

/-- How long settled entries are kept, and how many a sweep deletes at most. -/
structure RetentionConfig where
  retentionHours : Int := 168
  batchSize : Int := 1000
  deriving DecidableEq, Repr

namespace RetentionConfig

def withRetentionHours (config : RetentionConfig) (hours : Int) : RetentionConfig :=
  { config with retentionHours := clampHours hours }

def withBatchSize (config : RetentionConfig) (size : Int) : RetentionConfig :=
  { config with batchSize := max 1 size }

def ofEnvironment (env : Environment) : RetentionConfig :=
  let base : RetentionConfig := {}
  let hours := (env.int64? "OUTBOX_RETENTION_HOURS").getD base.retentionHours
  let size := (env.int64? "OUTBOX_CLEANUP_BATCH_SIZE").getD base.batchSize
  (base.withRetentionHours hours).withBatchSize size

end RetentionConfig

/-- How long uploaded files are kept, and how many a sweep deletes at most. -/
structure UploadRetentionConfig where
  ttlHours : Int := 24
  batchSize : Int := 1000
  deriving DecidableEq, Repr

namespace UploadRetentionConfig

def withTtlHours (config : UploadRetentionConfig) (hours : Int) : UploadRetentionConfig :=
  { config with ttlHours := clampHours hours }

def withBatchSize (config : UploadRetentionConfig) (size : Int) : UploadRetentionConfig :=
  { config with batchSize := max 1 size }

def ofEnvironment (env : Environment) : UploadRetentionConfig :=
  let base : UploadRetentionConfig := {}
  let hours := (env.int64? "FILE_UPLOAD_TTL_HOURS").getD base.ttlHours
  let size := (env.int64? "UPLOAD_CLEANUP_BATCH_SIZE").getD base.batchSize
  (base.withTtlHours hours).withBatchSize size

end UploadRetentionConfig

end OutboxRelay
