import OutboxRelay.Config.Retention
import OutboxRelay.Sweep.Delivery

namespace OutboxRelay

/-- The time that lies `hours` before `now`. -/
def cutoffBefore (now : Instant) (hours : Int) : Except Error Instant :=
  match (Period.ofHours? hours).bind now.sub? with
  | some cutoff => .ok cutoff
  | none => .error (.config ("retention window of " ++ toString hours ++ " hours is out of range"))

/-- What a retention sweep needs of the world: a clock, and a deletion up to a cutoff and a
limit. -/
structure RetentionServices (σ : Type) where
  now : Sweep σ Instant
  cleanup : Instant → Int → Sweep σ CleanupStats

variable {σ : Type}

/-- Deletes what is older than a number of hours, at most `limit` rows. -/
def runRetention (services : RetentionServices σ) (hours limit : Int) : Sweep σ CleanupStats := do
  let now ← services.now
  let cutoff ← cutoffBefore now hours
  services.cleanup cutoff limit

/-- Deletes settled entries. -/
def RetentionConfig.run (config : RetentionConfig) (services : RetentionServices σ) :
    Sweep σ CleanupStats :=
  runRetention services config.retentionHours config.batchSize

/-- Deletes uploaded files. -/
def UploadRetentionConfig.run (config : UploadRetentionConfig) (services : RetentionServices σ) :
    Sweep σ CleanupStats :=
  runRetention services config.ttlHours config.batchSize

end OutboxRelay
