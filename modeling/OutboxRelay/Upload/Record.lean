import OutboxRelay.Instant.Rfc3339
import OutboxRelay.Json.Basic
import OutboxRelay.Upload.Status

namespace OutboxRelay

/-- Files uploaded together. -/
structure UploadBatch where
  id : Uuid
  createdBy : Option Uuid
  status : BatchStatus
  idempotencyKey : String
  createdAt : Instant
  updatedAt : Instant
  deriving Repr, DecidableEq

/-- One uploaded file. -/
structure UploadFile where
  id : Uuid
  batchId : Option Uuid
  uploadedBy : Option Uuid
  filename : String
  contentType : String
  sizeBytes : Int
  sha256 : String
  metadata : Json
  status : FileStatus
  errorMessage : String
  createdAt : Instant
  updatedAt : Instant
  deriving Repr, BEq

/-- A file to be registered. The content type is what the client claims. -/
structure NewUploadFile where
  batchId : Option Uuid := none
  uploadedBy : Option Uuid := none
  filename : String
  contentType : Option String := none
  sizeBytes : Int
  sha256 : Option String := none
  metadata : Option Json := none
  deriving Repr, BEq

/-- The chunked transfer of one file. -/
structure UploadSession where
  id : Uuid
  fileId : Uuid
  status : SessionStatus
  chunkSizeBytes : Int
  totalSizeBytes : Int
  totalParts : Int
  bytesReceived : Int
  completedParts : Int
  idempotencyKey : String
  uploadToken : String
  createdAt : Instant
  updatedAt : Instant
  deriving Repr, DecidableEq

/-- One chunk of a session. -/
structure UploadPart where
  id : Uuid
  sessionId : Uuid
  partNumber : Int
  offsetBytes : Int
  sizeBytes : Int
  sha256 : String
  status : PartStatus
  tempStorageKey : String
  createdAt : Instant
  updatedAt : Instant
  deriving Repr, DecidableEq

/-- A chunk to be recorded. -/
structure NewUploadPart where
  partNumber : Int
  offsetBytes : Int
  sizeBytes : Int
  sha256 : Option String := none
  tempStorageKey : Option String := none
  deriving Repr, DecidableEq

end OutboxRelay
