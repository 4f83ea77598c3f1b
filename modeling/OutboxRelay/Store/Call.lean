import OutboxRelay.Endpoint.Codec
import OutboxRelay.Store.Database
import OutboxRelay.Upload.Codec

namespace OutboxRelay

/-- The calls that write to the store. -/
inductive Call
  | emit (event : NewOutboxEvent)
  | emitAll (events : List NewOutboxEvent)
  | fetchDue (time : Instant) (limit : Int) (lease : Period)
  | release (entries : List OutboxEntry)
  | applyTransitions (transitions : List EntryTransition)
  | cleanup (cutoff : Instant) (limit : Int)
  | requeueFailed (ids : List Uuid) (due : Instant)
  | createEndpoint (request : NewEndpoint)
  | updateEndpoint (id : Uuid) (change : EndpointChange)
  | deleteEndpoint (id : Uuid)
  | createBatch (createdBy : Option Uuid) (key : Option String)
  | startBatch (id : Uuid)
  | finalizeBatch (id : Uuid)
  | createFile (request : NewUploadFile)
  | markFileStored (id : Uuid)
  | markFileProcessed (id : Uuid)
  | markFileFailed (id : Uuid) (message : String)
  | markFileDeleted (id : Uuid)
  | createSession (token file : Uuid) (total : Int) (chunk : Option Int)
  | recordPart (session : Uuid) (part : NewUploadPart)
  | completeSession (id : Uuid)
  | abortSession (id : Uuid)
  | failSession (id : Uuid)
  | cleanupFiles (cutoff : Instant) (limit : Int)
  deriving Repr

/-- What a call gives back. -/
inductive Reply
  | entry (entry : OutboxEntry)
  | entries (entries : List OutboxEntry)
  | ids (ids : List Uuid)
  | count (count : Nat)
  | cleaned (stats : CleanupStats)
  | endpoint (endpoint : WebhookEndpoint)
  | found (there : Bool)
  | batch (batch : UploadBatch)
  | batchStatus (status : BatchStatus)
  | file (file : UploadFile)
  | session (session : UploadSession)
  | part (part : UploadPart)
  deriving Repr

def Reply.toJson : Reply → Json
  | .entry e => e.toJson
  | .entries es => .arr (es.map OutboxEntry.toJson)
  | .ids us => .arr (us.map Json.ofUuid)
  | .count n => Json.ofNat n
  | .cleaned stats => stats.toJson
  | .endpoint e => e.toJson
  | .found b => .bool b
  | .batch b => b.toJson
  | .batchStatus s => s.toJson
  | .file f => f.toJson
  | .session s => s.toJson
  | .part p => p.toJson

/-- Performs a call at the time `now`. -/
def Call.run {m : Type → Type} [Monad m] [MonadLiftT (Except Error) m] [MonadStore m]
    (db : Database) (now : Instant) : Call → m Reply
  | .emit event => .entry <$> MonadStore.transaction (db.outbox.emit now event)
  | .emitAll events => .entries <$> MonadStore.transaction (db.outbox.emitAll now events)
  | .fetchDue time limit lease => .entries <$> db.outbox.table.fetchDue time limit lease now
  | .release entries => .count <$> db.outbox.table.release entries now
  | .applyTransitions transitions => .ids <$> db.outbox.table.applyTransitions transitions now
  | .cleanup cutoff limit => .cleaned <$> db.outbox.table.cleanup cutoff limit
  | .requeueFailed ids due => .count <$> db.outbox.table.requeueFailed ids due now
  | .createEndpoint request => .endpoint <$> registerEndpoint now request
  | .updateEndpoint id change =>
    .endpoint <$> MonadStore.statement (Work.onEndpoints fun rows => rows.update id change now)
  | .deleteEndpoint id =>
    .found <$> MonadStore.statement (Work.onEndpoints fun rows => .ok (rows.delete id))
  | .createBatch createdBy key => .batch <$> UploadSettings.createBatch now createdBy key
  | .startBatch id => .batch <$> UploadSettings.startBatch now id
  | .finalizeBatch id => .batchStatus <$> db.uploads.finalizeBatch now id
  | .createFile request => .file <$> db.uploads.createFile now request
  | .markFileStored id => .file <$> db.uploads.markFileStored now id
  | .markFileProcessed id => .file <$> db.uploads.markFileProcessed now id
  | .markFileFailed id message => .file <$> db.uploads.markFileFailed now id message
  | .markFileDeleted id => .file <$> db.uploads.markFileDeleted now id
  | .createSession token file total chunk =>
    .session <$> UploadSettings.createSession now token file total chunk
  | .recordPart session part => .part <$> UploadSettings.recordPart now session part
  | .completeSession id => .session <$> db.uploads.completeSession now id
  | .abortSession id => .session <$> UploadSettings.abortSession now id
  | .failSession id => .session <$> UploadSettings.failSession now id
  | .cleanupFiles cutoff limit => .cleaned <$> UploadSettings.cleanupExpiredFiles cutoff limit

end OutboxRelay
