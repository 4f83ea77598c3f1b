import OutboxRelay.Outbox.Codec
import OutboxRelay.Upload.Record

namespace OutboxRelay

namespace Decoder

def fileStatus : Decoder FileStatus := named FileStatus.ofName?

def batchStatus : Decoder BatchStatus := named BatchStatus.ofName?

def sessionStatus : Decoder SessionStatus := named SessionStatus.ofName?

def partStatus : Decoder PartStatus := named PartStatus.ofName?

def uploadBatch : Decoder UploadBatch := fun tree depth => do
  let fields ← record? ["id", "created_by", "status", "idempotency_key", "created_at",
    "updated_at"] 0 tree depth
  return {
    id := ← field "id" uuid fields depth
    createdBy := ← fieldOr "created_by" (option uuid) none fields depth
    status := ← field "status" batchStatus fields depth
    idempotencyKey := ← field "idempotency_key" text fields depth
    createdAt := ← field "created_at" instant fields depth
    updatedAt := ← field "updated_at" instant fields depth }

def uploadFile : Decoder UploadFile := fun tree depth => do
  let fields ← record? ["id", "batch_id", "uploaded_by", "original_filename", "content_type",
    "size_bytes", "sha256", "metadata", "status", "error_message", "created_at", "updated_at"] 0
    tree depth
  return {
    id := ← field "id" uuid fields depth
    batchId := ← fieldOr "batch_id" (option uuid) none fields depth
    uploadedBy := ← fieldOr "uploaded_by" (option uuid) none fields depth
    filename := ← field "original_filename" text fields depth
    contentType := ← field "content_type" text fields depth
    sizeBytes := ← field "size_bytes" int64 fields depth
    sha256 := ← field "sha256" text fields depth
    metadata := ← field "metadata" json fields depth
    status := ← field "status" fileStatus fields depth
    errorMessage := ← field "error_message" text fields depth
    createdAt := ← field "created_at" instant fields depth
    updatedAt := ← field "updated_at" instant fields depth }

def uploadSession : Decoder UploadSession := fun tree depth => do
  let fields ← record? ["id", "file_id", "status", "chunk_size_bytes", "total_size_bytes",
    "total_parts", "bytes_received", "completed_parts", "idempotency_key", "upload_token",
    "created_at", "updated_at"] 0 tree depth
  return {
    id := ← field "id" uuid fields depth
    fileId := ← field "file_id" uuid fields depth
    status := ← field "status" sessionStatus fields depth
    chunkSizeBytes := ← field "chunk_size_bytes" int64 fields depth
    totalSizeBytes := ← field "total_size_bytes" int64 fields depth
    totalParts := ← field "total_parts" int32 fields depth
    bytesReceived := ← field "bytes_received" int64 fields depth
    completedParts := ← field "completed_parts" int32 fields depth
    idempotencyKey := ← field "idempotency_key" text fields depth
    uploadToken := ← field "upload_token" text fields depth
    createdAt := ← field "created_at" instant fields depth
    updatedAt := ← field "updated_at" instant fields depth }

def uploadPart : Decoder UploadPart := fun tree depth => do
  let fields ← record? ["id", "session_id", "part_number", "offset_bytes", "size_bytes", "sha256",
    "status", "temp_storage_key", "created_at", "updated_at"] 0 tree depth
  return {
    id := ← field "id" uuid fields depth
    sessionId := ← field "session_id" uuid fields depth
    partNumber := ← field "part_number" int32 fields depth
    offsetBytes := ← field "offset_bytes" int64 fields depth
    sizeBytes := ← field "size_bytes" int64 fields depth
    sha256 := ← field "sha256" text fields depth
    status := ← field "status" partStatus fields depth
    tempStorageKey := ← field "temp_storage_key" text fields depth
    createdAt := ← field "created_at" instant fields depth
    updatedAt := ← field "updated_at" instant fields depth }

end Decoder

def FileStatus.toJson (s : FileStatus) : Json := .str s.name

def BatchStatus.toJson (s : BatchStatus) : Json := .str s.name

def SessionStatus.toJson (s : SessionStatus) : Json := .str s.name

def PartStatus.toJson (s : PartStatus) : Json := .str s.name

def UploadBatch.toJson (b : UploadBatch) : Json :=
  Json.object [
    ("id", Json.ofUuid b.id),
    ("created_by", Json.ofOption Json.ofUuid b.createdBy),
    ("status", b.status.toJson),
    ("idempotency_key", .str b.idempotencyKey),
    ("created_at", Json.ofInstant b.createdAt),
    ("updated_at", Json.ofInstant b.updatedAt)]

def UploadFile.toJson (f : UploadFile) : Json :=
  Json.object [
    ("id", Json.ofUuid f.id),
    ("batch_id", Json.ofOption Json.ofUuid f.batchId),
    ("uploaded_by", Json.ofOption Json.ofUuid f.uploadedBy),
    ("original_filename", .str f.filename),
    ("content_type", .str f.contentType),
    ("size_bytes", .int f.sizeBytes),
    ("sha256", .str f.sha256),
    ("metadata", f.metadata),
    ("status", f.status.toJson),
    ("error_message", .str f.errorMessage),
    ("created_at", Json.ofInstant f.createdAt),
    ("updated_at", Json.ofInstant f.updatedAt)]

def UploadSession.toJson (s : UploadSession) : Json :=
  Json.object [
    ("id", Json.ofUuid s.id),
    ("file_id", Json.ofUuid s.fileId),
    ("status", s.status.toJson),
    ("chunk_size_bytes", .int s.chunkSizeBytes),
    ("total_size_bytes", .int s.totalSizeBytes),
    ("total_parts", .int s.totalParts),
    ("bytes_received", .int s.bytesReceived),
    ("completed_parts", .int s.completedParts),
    ("idempotency_key", .str s.idempotencyKey),
    ("upload_token", .str s.uploadToken),
    ("created_at", Json.ofInstant s.createdAt),
    ("updated_at", Json.ofInstant s.updatedAt)]

def UploadPart.toJson (p : UploadPart) : Json :=
  Json.object [
    ("id", Json.ofUuid p.id),
    ("session_id", Json.ofUuid p.sessionId),
    ("part_number", .int p.partNumber),
    ("offset_bytes", .int p.offsetBytes),
    ("size_bytes", .int p.sizeBytes),
    ("sha256", .str p.sha256),
    ("status", p.status.toJson),
    ("temp_storage_key", .str p.tempStorageKey),
    ("created_at", Json.ofInstant p.createdAt),
    ("updated_at", Json.ofInstant p.updatedAt)]

instance : Wire FileStatus := ⟨Decoder.fileStatus, FileStatus.toJson⟩

instance : Wire BatchStatus := ⟨Decoder.batchStatus, BatchStatus.toJson⟩

instance : Wire SessionStatus := ⟨Decoder.sessionStatus, SessionStatus.toJson⟩

instance : Wire PartStatus := ⟨Decoder.partStatus, PartStatus.toJson⟩

instance : Wire UploadBatch := ⟨Decoder.uploadBatch, UploadBatch.toJson⟩

instance : Wire UploadFile := ⟨Decoder.uploadFile, UploadFile.toJson⟩

instance : Wire UploadSession := ⟨Decoder.uploadSession, UploadSession.toJson⟩

instance : Wire UploadPart := ⟨Decoder.uploadPart, UploadPart.toJson⟩

end OutboxRelay
