import OutboxRelay.Binary64.Basic
import OutboxRelay.Binary64.Decimal
import OutboxRelay.Binary64.Shortest
import OutboxRelay.Column
import OutboxRelay.Config.Codec
import OutboxRelay.Config.Delivery
import OutboxRelay.Config.Environment
import OutboxRelay.Config.Pool
import OutboxRelay.Config.Retention
import OutboxRelay.Config.Table
import OutboxRelay.Config.Transport
import OutboxRelay.Config.Worker
import OutboxRelay.Decimal
import OutboxRelay.Digest.Hmac
import OutboxRelay.Digest.Sha256
import OutboxRelay.Endpoint.Basic
import OutboxRelay.Endpoint.Codec
import OutboxRelay.Error
import OutboxRelay.Http.ContentType
import OutboxRelay.Http.Exchange
import OutboxRelay.Http.Message
import OutboxRelay.Http.Response
import OutboxRelay.Instant.Basic
import OutboxRelay.Instant.Calendar
import OutboxRelay.Instant.Rfc3339
import OutboxRelay.Json.Basic
import OutboxRelay.Json.Decoder
import OutboxRelay.Json.Printer
import OutboxRelay.Json.Tree
import OutboxRelay.Outbox.Codec
import OutboxRelay.Outbox.Entry
import OutboxRelay.Outbox.Status
import OutboxRelay.Payload
import OutboxRelay.Period
import OutboxRelay.Report
import OutboxRelay.Retry
import OutboxRelay.Signature
import OutboxRelay.Store.Call
import OutboxRelay.Store.Database
import OutboxRelay.Store.Endpoints
import OutboxRelay.Store.Outbox
import OutboxRelay.Store.Snapshot
import OutboxRelay.Store.Tables
import OutboxRelay.Store.UnitOfWork
import OutboxRelay.Store.Uploads
import OutboxRelay.Sweep.Delivery
import OutboxRelay.Sweep.Retention
import OutboxRelay.Sweep.Site
import OutboxRelay.Text.Blank
import OutboxRelay.Text.Charset
import OutboxRelay.Text.Charset.Big5
import OutboxRelay.Text.Charset.Chinese
import OutboxRelay.Text.Charset.Gb2312
import OutboxRelay.Text.Charset.Japanese
import OutboxRelay.Text.Charset.Jis0208
import OutboxRelay.Text.Charset.Jis0212
import OutboxRelay.Text.Charset.Korean
import OutboxRelay.Text.Charset.KsX1001
import OutboxRelay.Text.Charset.OctetDecoder
import OutboxRelay.Text.Charset.SingleOctet
import OutboxRelay.Text.Charset.Table
import OutboxRelay.Text.CodePoint
import OutboxRelay.Text.Composition
import OutboxRelay.Text.Digits
import OutboxRelay.Text.Lowercase
import OutboxRelay.Text.Split
import OutboxRelay.Text.Utf8
import OutboxRelay.Transport
import OutboxRelay.Upload.Codec
import OutboxRelay.Upload.Event
import OutboxRelay.Upload.PartCount
import OutboxRelay.Upload.Policy
import OutboxRelay.Upload.Record
import OutboxRelay.Upload.Status
import OutboxRelay.Url.Authority
import OutboxRelay.Url.Basic
import OutboxRelay.Url.Domain.Allowed
import OutboxRelay.Url.Domain.Label
import OutboxRelay.Url.Domain.Mapping
import OutboxRelay.Url.Domain.Property
import OutboxRelay.Url.Host
import OutboxRelay.Url.Percent
import OutboxRelay.Url.Punycode
import OutboxRelay.Url.Reference
import OutboxRelay.Uuid
import OutboxRelay.Wakeup
import OutboxRelay.Worker.Event
import OutboxRelay.Worker.Machine
import OutboxRelay.Proofs.Emission
import OutboxRelay.Proofs.UploadEmission
import OutboxRelay.Proofs.RowWrites
import OutboxRelay.Proofs.StoreRun
import OutboxRelay.Proofs.StoredTime
import OutboxRelay.Proofs.TableConsistency
import OutboxRelay.Proofs.Attempts
import OutboxRelay.Proofs.Lifecycle
import OutboxRelay.Proofs.RelayRun
import OutboxRelay.Proofs.ClaimExclusion
import OutboxRelay.Proofs.Redirects
import OutboxRelay.Proofs.Circumstances
import OutboxRelay.Proofs.GuardedWrites
import OutboxRelay.Proofs.SweepCourse
import OutboxRelay.Proofs.DefaultRetry
import OutboxRelay.Proofs.BatchWrites
import OutboxRelay.Proofs.Ordering
import OutboxRelay.Proofs.Settlement
import OutboxRelay.Proofs.SweepOutcome
import OutboxRelay.Proofs.SweepRun
import OutboxRelay.Proofs.AttemptCount
import OutboxRelay.Proofs.StaleSettlement
import OutboxRelay.Proofs.LateRelease
import OutboxRelay.Proofs.TimedSweep
import OutboxRelay.Proofs.LeaseCoverage
import OutboxRelay.Proofs.BatchIsolation
import OutboxRelay.Proofs.UploadWrites
import OutboxRelay.Proofs.SessionStep
import OutboxRelay.Proofs.SessionAccount
import OutboxRelay.Proofs.SessionHistory
import OutboxRelay.Proofs.OutboxHistory
import OutboxRelay.Proofs.UnitCourse
import OutboxRelay.Proofs.FileEvents
import OutboxRelay.Proofs.FileStep
import OutboxRelay.Proofs.FileHistory
import OutboxRelay.Proofs.Landing
import OutboxRelay.Proofs.AttemptAccount
import OutboxRelay.Proofs.RetryBudget
import OutboxRelay.Proofs.Backoff
import OutboxRelay.Proofs.BatchEvents
import OutboxRelay.Proofs.BatchStep
import OutboxRelay.Proofs.BatchHistory
import OutboxRelay.Proofs.UnfinishedWork
import OutboxRelay.Proofs.FailedCalls
import OutboxRelay.Proofs.DigitText
import OutboxRelay.Proofs.UuidText
import OutboxRelay.Proofs.JsonOrder
import OutboxRelay.Proofs.JsonText
import OutboxRelay.Proofs.JsonReading
import OutboxRelay.Proofs.CanonicalBody
import OutboxRelay.Proofs.Calendar
import OutboxRelay.Proofs.InstantText
import OutboxRelay.Proofs.Decoding
import OutboxRelay.Proofs.NormalForm
import OutboxRelay.Proofs.References
import OutboxRelay.Proofs.Cascade
import OutboxRelay.Proofs.WorkerLoop
import OutboxRelay.Proofs.DefaultKey
import OutboxRelay.Proofs.EndpointAddress
import OutboxRelay.Proofs.Interference
import OutboxRelay.Proofs.FetchRelease
import OutboxRelay.Proofs.SweepStatistics
import OutboxRelay.Proofs.RetentionBatches
import OutboxRelay.Proofs.FileTexts
import OutboxRelay.Proofs.FileAdmission
import OutboxRelay.Proofs.EarlyFailure
import OutboxRelay.Proofs.ChunkPlan
import OutboxRelay.Proofs.SessionRun
import OutboxRelay.Proofs.ChunkedUpload
import OutboxRelay.Proofs.DelayGrowth
import OutboxRelay.Proofs.Builders
import OutboxRelay.Proofs.LeastParts
