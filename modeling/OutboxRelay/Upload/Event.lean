import OutboxRelay.Outbox.Entry
import OutboxRelay.Payload
import OutboxRelay.Upload.Codec

namespace OutboxRelay

def fileStored : String := "file.stored"

def fileProcessed : String := "file.processed"

def fileFailed : String := "file.failed"

def batchFinalized : String := "batch.finalized"

/-- The event of a file that entered its status; a completed session is named. Its key is the
default one, so a file has at most one event of a type. -/
def UploadFile.event (file : UploadFile) (eventType : String) (session : Option Uuid) :
    NewOutboxEvent :=
  let error := if file.errorMessage.isEmpty then none else some (Json.str file.errorMessage)
  { aggregateType := "UploadFile"
    aggregateId := file.id.text
    eventType
    payload := some (PayloadBuilder.empty
      |>.field "file_id" (Json.ofUuid file.id)
      |>.optional "batch_id" (file.batchId.map Json.ofUuid)
      |>.optional "session_id" (session.map Json.ofUuid)
      |>.field "original_filename" (.str file.filename)
      |>.field "content_type" (.str file.contentType)
      |>.field "size_bytes" (.int file.sizeBytes)
      |>.field "sha256" (.str file.sha256)
      |>.field "status" file.status.toJson
      |>.optional "error" error
      |>.field "updated_at" (Json.ofInstant file.updatedAt)
      |>.build) }

/-- The event of a batch whose files give it a new status. Its key names the status, so a batch
has at most one event for each. -/
def BatchStatus.event (status previous : BatchStatus) (batch : Uuid) (files : List FileStatus) :
    NewOutboxEvent :=
  { aggregateType := "UploadBatch"
    aggregateId := batch.text
    eventType := batchFinalized
    payload := some (PayloadBuilder.empty
      |>.field "batch_id" (Json.ofUuid batch)
      |>.field "status" status.toJson
      |>.field "previous_status" previous.toJson
      |>.field "file_count" (Json.ofNat files.length)
      |>.field "succeeded" (Json.ofNat (files.countP FileStatus.isSuccess))
      |>.field "failed" (Json.ofNat (files.countP (· = .failed)))
      |>.build)
    idempotencyKey := some ("UploadBatch:" ++ batch.text ++ ":" ++ status.name) }

end OutboxRelay
