import OutboxRelay.Store.Access
import OutboxRelay.Upload.Event
import OutboxRelay.Upload.PartCount
import OutboxRelay.Upload.Policy

namespace OutboxRelay

namespace Tables

def batch? (t : Tables) (id : Uuid) : Option UploadBatch := t.batches.find? (·.id = id)

def file? (t : Tables) (id : Uuid) : Option UploadFile := t.files.find? (·.id = id)

def session? (t : Tables) (id : Uuid) : Option UploadSession := t.sessions.find? (·.id = id)

def setBatch (t : Tables) (batch : UploadBatch) : Tables :=
  { t with batches := t.batches.map fun row => if row.id = batch.id then batch else row }

def setFile (t : Tables) (file : UploadFile) : Tables :=
  { t with files := t.files.map fun row => if row.id = file.id then file else row }

def setSession (t : Tables) (session : UploadSession) : Tables :=
  { t with sessions := t.sessions.map fun row => if row.id = session.id then session else row }

/-- The files of a batch, oldest first. -/
def batchFiles (t : Tables) (batch : Uuid) : List UploadFile :=
  (t.files.filter (·.batchId = some batch)).mergeSort fun a b => !b.id.lt a.id

/-- The parts of a session by number. -/
def sessionParts (t : Tables) (session : Uuid) : List UploadPart :=
  (t.parts.filter (·.sessionId = session)).mergeSort fun a b => a.partNumber ≤ b.partNumber

/-- Files from before `cutoff`, oldest first. -/
def expiredFiles (t : Tables) (cutoff : Instant) : List UploadFile :=
  (t.files.filter (·.createdAt.lt cutoff.stored)).mergeSort fun a b => !b.id.lt a.id

/-- Deletes files, their sessions and the parts of those. -/
def deleteFiles (t : Tables) (ids : List Uuid) : Tables :=
  let gone := (t.sessions.filter fun s => ids.contains s.fileId).map (·.id)
  { t with
    files := t.files.filter fun f => !ids.contains f.id
    sessions := t.sessions.filter fun s => !ids.contains s.fileId
    parts := t.parts.filter fun p => !gone.contains p.sessionId }

end Tables

/-- Where the events of uploads go, and which uploads are accepted. -/
structure UploadSettings where
  outbox : OutboxSettings := {}
  policy : UploadPolicy := {}
  deriving DecidableEq, Repr

/-- Why a conditional write reached no row: there is none, or it is in another state. -/
def missed (entity : String) (id : Uuid) (isThere : Bool) (expected : String) : Error :=
  if isThere then .invalidTransition entity id expected
  else .notFound (entity ++ " " ++ id.text)

/-- Looks why a conditional write reached no row. -/
def reportMiss {α : Type} (entity : String) (id : Uuid) (isThere : Tables → Bool)
    (expected : String) : Work α := do
  let t ← Work.tables
  throw (missed entity id (isThere t) expected)

/-- A digest may be missing or empty, but not malformed. -/
def checkSha256 (sha256 : Option String) : Except Error Unit :=
  match sha256 with
  | some s =>
    if s.isEmpty || isSha256Hex s then .ok ()
    else .error (.invalidInput ("malformed sha256: " ++ s))
  | none => .ok ()

namespace UploadSettings

section Parts

/-- Puts the row of a new batch. -/
def insertBatch (now : Instant) (id : Uuid) (createdBy : Option Uuid) (key : Option String) :
    Work UploadBatch := do
  checkTexts key.toList
  let batch : UploadBatch := {
    id
    createdBy
    status := .init
    idempotencyKey := key.getD ""
    createdAt := now.stored
    updatedAt := now.stored }
  let t ← Work.tables
  Work.setTables { t with batches := t.batches ++ [batch] }
  return batch

/-- Starts a batch that has not been started. -/
def advanceBatch (now : Instant) (id : Uuid) : Work (Option UploadBatch) := do
  let t ← Work.tables
  match (t.batch? id).filter (·.status = .init) with
  | some batch =>
    let batch := { batch with status := .inProgress, updatedAt := now }
    Work.setTables (t.setBatch batch)
    return some batch
  | none => return none

/-- An event that is there already was announced before. -/
def absorbDuplicate (work : Work OutboxEntry) : Work Unit := fun u =>
  match work.run u with
  | (.error (.duplicateEvent _ _), v) => (.ok (), v)
  | (.error e, v) => (.error e, v)
  | (.ok _, v) => (.ok (), v)

/-- The row of a new file. A refused upload is kept as failed, with the type that the client
claims; an accepted one has the type that its name tells. -/
def newFile (settings : UploadSettings) (id : Uuid) (request : NewUploadFile) (now : Instant) :
    UploadFile :=
  let guessed := guessContentType request.filename
  let rejection := settings.policy.rejection? request.filename request.sizeBytes
  { id
    batchId := request.batchId
    uploadedBy := request.uploadedBy
    filename := request.filename
    contentType := if rejection.isNone then guessed else request.contentType.getD guessed
    sizeBytes := max request.sizeBytes 0
    sha256 := request.sha256.getD ""
    metadata := request.metadata.getD Json.empty
    status := if rejection.isNone then .uploading else .failed
    errorMessage := (rejection.map Rejection.text).getD ""
    createdAt := now.stored
    updatedAt := now.stored }

/-- The file as it comes out of the table again. -/
def inTable (file : UploadFile) : UploadFile :=
  { file with metadata := file.metadata.readBack?.getD file.metadata }

/-- Puts the row of a file and reads it. One that is put into a batch needs the batch. -/
def insertFile (file : UploadFile) : Work UploadFile := do
  checkTexts [file.filename, file.contentType, file.sha256, file.errorMessage]
  if file.metadata.hasNull then throw (.database .nullCharacter)
  let t ← Work.tables
  match file.batchId with
  | some batch =>
    if (t.batch? batch).isNone then throw (.notFound ("upload_batch " ++ batch.text))
  | none => pure ()
  Work.setTables { t with files := t.files ++ [inTable file] }
  if file.metadata.readBack?.isNone then throw (.database .unreadable)
  return inTable file

/-- Moves a file to a status if it is in one of `sources`. -/
def moveFile (now : Instant) (id : Uuid) (sources : List FileStatus) (target : FileStatus)
    (message : Option String) : Work (Option UploadFile) := do
  checkTexts message.toList
  let t ← Work.tables
  match (t.file? id).filter fun file => sources.contains file.status with
  | some file =>
    let file := { file with
      status := target
      errorMessage := message.getD file.errorMessage
      updatedAt := now }
    Work.setTables (t.setFile file)
    return some file
  | none => return none

/-- Puts the row of a new session. A file has at most one. -/
def insertSession (now : Instant) (id token file : Uuid) (total : Int) (chunk : Option Int)
    (parts : Int) : Work UploadSession := do
  let t ← Work.tables
  if (t.file? file).isNone then throw (.notFound ("upload_file " ++ file.text))
  if t.sessions.any (·.fileId = file) then
    throw (.invalidInput ("upload file " ++ file.text ++ " already has a session"))
  let session : UploadSession := {
    id
    fileId := file
    status := .init
    chunkSizeBytes := chunk.getD defaultChunkSize
    totalSizeBytes := total
    totalParts := parts
    bytesReceived := 0
    completedParts := 0
    idempotencyKey := "UploadFile:" ++ file.text
    uploadToken := token.plainText
    createdAt := now.stored
    updatedAt := now.stored }
  Work.setTables { t with sessions := t.sessions ++ [session] }
  return session

/-- What has to hold of a part before the tables are asked. -/
def checkPart (part : NewUploadPart) : Except Error Unit :=
  if part.offsetBytes < 0 ∨ part.sizeBytes < 0 then
    .error (.invalidInput ("part " ++ toString part.partNumber ++ " has negative offset or size"))
  else checkSha256 part.sha256

/-- How many parts a session has. -/
def partsOf (session : Uuid) : Work Int := do
  let t ← Work.tables
  match t.session? session with
  | some row => return row.totalParts
  | none => throw (.notFound ("upload_session " ++ session.text))

def checkNumber (part : NewUploadPart) (total : Int) : Except Error Unit :=
  if part.partNumber < 1 ∨ total < part.partNumber then
    .error (.invalidInput ("part number " ++ toString part.partNumber ++ " out of range 1..=" ++
      toString total))
  else .ok ()

/-- Puts the row of a part whose number is not recorded yet. -/
def insertPart (now : Instant) (session : Uuid) (part : NewUploadPart) : Work UploadPart := do
  let id ← Work.freshId
  checkTexts part.tempStorageKey.toList
  let t ← Work.tables
  if t.parts.any fun p => p.sessionId = session && p.partNumber = part.partNumber then
    throw (.duplicatePart session part.partNumber)
  let recorded : UploadPart := {
    id
    sessionId := session
    partNumber := part.partNumber
    offsetBytes := part.offsetBytes
    sizeBytes := part.sizeBytes
    sha256 := part.sha256.getD ""
    status := .received
    tempStorageKey := part.tempStorageKey.getD ""
    createdAt := now.stored
    updatedAt := now.stored }
  Work.setTables { t with parts := t.parts ++ [recorded] }
  return recorded

/-- Counts one part more of a session that still takes parts. -/
def advanceSession (now : Instant) (id : Uuid) (size : Int) : Work Bool := do
  let t ← Work.tables
  match (t.session? id).filter (!·.status.isTerminal) with
  | some session =>
    let received := session.bytesReceived + size
    let completed := session.completedParts + 1
    if !(fitsInt64 received && fitsInt32 completed) then throw (.database .numericRange)
    Work.setTables (t.setSession { session with
      completedParts := completed
      bytesReceived := received
      status := .inProgress
      updatedAt := now })
    return true
  | none => return false

/-- Brings a session that still takes parts to its end. -/
def concludeSession (now : Instant) (id : Uuid) (target : SessionStatus) :
    Work (Option UploadSession) := do
  let t ← Work.tables
  match (t.session? id).filter (!·.status.isTerminal) with
  | some session =>
    let session := { session with status := target, updatedAt := now }
    Work.setTables (t.setSession session)
    return some session
  | none => return none

end Parts

section Calls
variable {m : Type → Type} [Monad m] [MonadLiftT (Except Error) m] [MonadStore m]
open MonadStore

def createBatch (now : Instant) (createdBy : Option Uuid) (key : Option String) :
    m UploadBatch := do
  let id ← freshId
  statement (insertBatch now id createdBy key)

def startBatch (now : Instant) (id : Uuid) : m UploadBatch := do
  match ← statement (advanceBatch now id) with
  | some batch => return batch
  | none => statement (reportMiss "upload_batch" id (fun t => (t.batch? id).isSome) "init")

/-- Gives a batch the status that its files give it. Only a change is written and announced, and
each status only once. -/
def finalizeBatch (settings : UploadSettings) (now : Instant) (id : Uuid) : m BatchStatus :=
  transaction do
    let t ← Work.tables
    match t.batch? id with
    | none => throw (.notFound ("upload_batch " ++ id.text))
    | some batch =>
      let files := (t.batchFiles id).map (·.status)
      let status := BatchStatus.ofFiles files
      if status = batch.status then return status
      else
        Work.setTables (t.setBatch { batch with status, updatedAt := now })
        absorbDuplicate (settings.outbox.emit now (status.event batch.status id files))
        return status

/-- Registers a file. A refused one is announced. -/
def createFile (settings : UploadSettings) (now : Instant) (request : NewUploadFile) :
    m UploadFile := do
  checkSha256 request.sha256
  transaction do
    let id ← Work.freshId
    let file ← insertFile (settings.newFile id request now)
    if file.status = .failed then
      let _ ← settings.outbox.emit now (file.event fileFailed none)
    return file

/-- Moves a file and announces it. -/
def transitionFile (settings : UploadSettings) (now : Instant) (id : Uuid)
    (sources : List FileStatus) (target : FileStatus) (message eventType : Option String) :
    m UploadFile := do
  let moved ← transaction? do
    match ← moveFile now id sources target message with
    | none => return none
    | some file =>
      match eventType with
      | some eventType =>
        let _ ← settings.outbox.emit now (file.event eventType none)
      | none => pure ()
      return some file
  match moved with
  | some file => return file
  | none => statement (reportMiss "upload_file" id (fun t => (t.file? id).isSome)
      (String.intercalate " or " (sources.map FileStatus.name)))

def markFileStored (settings : UploadSettings) (now : Instant) (id : Uuid) : m UploadFile :=
  settings.transitionFile now id [.uploading] .stored none (some fileStored)

def markFileProcessed (settings : UploadSettings) (now : Instant) (id : Uuid) : m UploadFile :=
  settings.transitionFile now id [.stored] .processed none (some fileProcessed)

def markFileFailed (settings : UploadSettings) (now : Instant) (id : Uuid) (message : String) :
    m UploadFile :=
  settings.transitionFile now id [.uploading] .failed (some message) (some fileFailed)

def markFileDeleted (settings : UploadSettings) (now : Instant) (id : Uuid) : m UploadFile :=
  settings.transitionFile now id [.uploading, .stored, .processed, .failed] .deleted none none

/-- Opens the session of a file. The token is random. -/
def createSession (now : Instant) (token : Uuid) (file : Uuid) (total : Int)
    (chunk : Option Int) : m UploadSession := do
  let parts ← totalParts total chunk
  let id ← freshId
  statement (insertSession now id token file total chunk parts)

/-- Records a chunk and counts it. Its number has to be in range and not recorded yet. -/
def recordPart (now : Instant) (session : Uuid) (part : NewUploadPart) : m UploadPart := do
  checkPart part
  let total ← statement (partsOf session)
  checkNumber part total
  let recorded ← transaction? do
    let recorded ← insertPart now session part
    let isCounted ← advanceSession now session part.sizeBytes
    return if isCounted then some recorded else none
  match recorded with
  | some recorded => return recorded
  | none => statement (reportMiss "upload_session" session (fun t => (t.session? session).isSome)
      "init or in_progress")

/-- Completes a session that has all its parts. A file that is still uploading is stored then. -/
def completeSession (settings : UploadSettings) (now : Instant) (id : Uuid) : m UploadSession :=
  transaction do
    let t ← Work.tables
    match t.session? id with
    | none => throw (.notFound ("upload_session " ++ id.text))
    | some session =>
      if session.status = .failed ∨ session.status = .aborted then
        throw (.invalidTransition "upload_session" id "init, in_progress or complete")
      let received : Int := t.parts.countP fun p => p.sessionId = id && p.status = .received
      if received < session.totalParts then
        throw (.incompleteUpload id received session.totalParts)
      let completed := { session with status := .complete, updatedAt := now }
      Work.setTables (t.setSession completed)
      match ← moveFile now session.fileId [.uploading] .stored none with
      | some file =>
        let _ ← settings.outbox.emit now (file.event fileStored (some id))
      | none => pure ()
      return completed

/-- Ends a session that still takes parts. -/
def terminateSession (now : Instant) (id : Uuid) (target : SessionStatus) : m UploadSession := do
  match ← statement (concludeSession now id target) with
  | some session => return session
  | none => statement (reportMiss "upload_session" id (fun t => (t.session? id).isSome)
      "init or in_progress")

def abortSession (now : Instant) (id : Uuid) : m UploadSession :=
  terminateSession now id .aborted

def failSession (now : Instant) (id : Uuid) : m UploadSession :=
  terminateSession now id .failed

/-- Deletes files from before `cutoff` with all that belongs to them, at most `limit` files. -/
def cleanupExpiredFiles (cutoff : Instant) (limit : Int) : m CleanupStats :=
  transaction do
    if !cutoff.isStorable then throw (.database .timeRange)
    let t ← Work.tables
    let found := t.expiredFiles cutoff
    if found.isEmpty then return ⟨0, 0⟩
    if limit < 0 then throw (.database .negativeLimit)
    let deleted := found.take limit.toNat
    Work.setTables (t.deleteFiles (deleted.map (·.id)))
    return ⟨deleted.length, found.length - deleted.length⟩

end Calls

end UploadSettings

end OutboxRelay
