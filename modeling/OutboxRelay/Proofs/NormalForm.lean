import OutboxRelay.Endpoint.Codec
import OutboxRelay.Proofs.Decoding
import OutboxRelay.Upload.Codec

namespace OutboxRelay

namespace Decoder
variable {tree : JsonTree} {depth : Nat}

/-! ### Statuses -/

theorem stable_outboxStatus : Stable outboxStatus OutboxStatus.toJson :=
  stable_named fun s => by cases s <;> rfl

theorem stable_fileStatus : Stable fileStatus FileStatus.toJson :=
  stable_named fun s => by cases s <;> rfl

theorem stable_batchStatus : Stable batchStatus BatchStatus.toJson :=
  stable_named fun s => by cases s <;> rfl

theorem stable_sessionStatus : Stable sessionStatus SessionStatus.toJson :=
  stable_named fun s => by cases s <;> rfl

theorem stable_partStatus : Stable partStatus PartStatus.toJson :=
  stable_named fun s => by cases s <;> rfl

/-! ### Numbers of the records -/

theorem stable_int32 : Stable int32 .int := stable_int (by decide) (by decide)

theorem stable_int64 : Stable int64 .int := stable_int (by decide) (by decide)

theorem stable_nat64 : Stable nat64 Json.ofNat := stable_nat (by decide)

end Decoder

/-! ### Records -/

section
open Decoder Json RecordField

def UploadBatch.format : RecordFormat UploadBatch where
  fields := [
    required "id" (·.id) uuid ofUuid stable_uuid floatFree_ofUuid,
    nullable "created_by" (·.createdBy) uuid ofUuid stable_uuid floatFree_ofUuid nofun,
    required "status" (·.status) batchStatus BatchStatus.toJson stable_batchStatus
      (floatFree_str ·.name),
    required "idempotency_key" (·.idempotencyKey) text .str stable_text floatFree_str,
    required "created_at" (·.createdAt) instant ofInstant stable_instant floatFree_ofInstant,
    required "updated_at" (·.updatedAt) instant ofInstant stable_instant floatFree_ofInstant]
  distinct := by decide
  decodes _ depth a := by
    refine record?_bind_eq_some_iff fun values => ?_
    iterate 6 refine RecordField.bind_eq_some_iff Iff.rfl fun _ => ?_
    cases a
    grind
  encodes _ := rfl

def UploadSession.format : RecordFormat UploadSession where
  fields := [
    required "id" (·.id) uuid ofUuid stable_uuid floatFree_ofUuid,
    required "file_id" (·.fileId) uuid ofUuid stable_uuid floatFree_ofUuid,
    required "status" (·.status) sessionStatus SessionStatus.toJson stable_sessionStatus
      (floatFree_str ·.name),
    required "chunk_size_bytes" (·.chunkSizeBytes) int64 .int stable_int64 floatFree_int,
    required "total_size_bytes" (·.totalSizeBytes) int64 .int stable_int64 floatFree_int,
    required "total_parts" (·.totalParts) int32 .int stable_int32 floatFree_int,
    required "bytes_received" (·.bytesReceived) int64 .int stable_int64 floatFree_int,
    required "completed_parts" (·.completedParts) int32 .int stable_int32 floatFree_int,
    required "idempotency_key" (·.idempotencyKey) text .str stable_text floatFree_str,
    required "upload_token" (·.uploadToken) text .str stable_text floatFree_str,
    required "created_at" (·.createdAt) instant ofInstant stable_instant floatFree_ofInstant,
    required "updated_at" (·.updatedAt) instant ofInstant stable_instant floatFree_ofInstant]
  distinct := by decide
  decodes _ depth a := by
    refine record?_bind_eq_some_iff fun values => ?_
    iterate 12 refine RecordField.bind_eq_some_iff Iff.rfl fun _ => ?_
    cases a
    grind
  encodes _ := rfl

def UploadPart.format : RecordFormat UploadPart where
  fields := [
    required "id" (·.id) uuid ofUuid stable_uuid floatFree_ofUuid,
    required "session_id" (·.sessionId) uuid ofUuid stable_uuid floatFree_ofUuid,
    required "part_number" (·.partNumber) int32 .int stable_int32 floatFree_int,
    required "offset_bytes" (·.offsetBytes) int64 .int stable_int64 floatFree_int,
    required "size_bytes" (·.sizeBytes) int64 .int stable_int64 floatFree_int,
    required "sha256" (·.sha256) text .str stable_text floatFree_str,
    required "status" (·.status) partStatus PartStatus.toJson stable_partStatus (floatFree_str
      ·.name),
    required "temp_storage_key" (·.tempStorageKey) text .str stable_text floatFree_str,
    required "created_at" (·.createdAt) instant ofInstant stable_instant floatFree_ofInstant,
    required "updated_at" (·.updatedAt) instant ofInstant stable_instant floatFree_ofInstant]
  distinct := by decide
  decodes _ depth a := by
    refine record?_bind_eq_some_iff fun values => ?_
    iterate 10 refine RecordField.bind_eq_some_iff Iff.rfl fun _ => ?_
    cases a
    grind
  encodes _ := rfl

def DeliveryResult.format : RecordFormat DeliveryResult where
  fields := [
    required "ok" (·.ok) bool .bool stable_bool floatFree_bool,
    nullable "status_code" (·.statusCode) (nat 65535) ofNat (stable_nat (by decide))
      floatFree_ofNat nofun,
    required "error" (·.error) text .str stable_text floatFree_str]
  distinct := by decide
  decodes _ depth a := by
    refine record?_bind_eq_some_iff fun values => ?_
    iterate 3 refine RecordField.bind_eq_some_iff Iff.rfl fun _ => ?_
    cases a
    grind
  encodes _ := rfl

def DeliveryStats.format : RecordFormat DeliveryStats where
  fields := [
    required "processed" (·.processed) nat64 ofNat stable_nat64 floatFree_ofNat,
    required "delivered" (·.delivered) nat64 ofNat stable_nat64 floatFree_ofNat,
    required "failed" (·.failed) nat64 ofNat stable_nat64 floatFree_ofNat,
    required "skipped" (·.skipped) nat64 ofNat stable_nat64 floatFree_ofNat,
    required "deferred" (·.deferred) nat64 ofNat stable_nat64 floatFree_ofNat,
    required "remaining" (·.remaining) int64 .int stable_int64 floatFree_int]
  distinct := by decide
  decodes _ depth a := by
    refine record?_bind_eq_some_iff fun values => ?_
    iterate 6 refine RecordField.bind_eq_some_iff Iff.rfl fun _ => ?_
    cases a
    grind
  encodes _ := rfl

def CleanupStats.format : RecordFormat CleanupStats where
  fields := [
    required "deleted" (·.deleted) nat64 ofNat stable_nat64 floatFree_ofNat,
    required "remaining" (·.remaining) nat64 ofNat stable_nat64 floatFree_ofNat]
  distinct := by decide
  decodes _ depth a := by
    refine record?_bind_eq_some_iff fun values => ?_
    iterate 2 refine RecordField.bind_eq_some_iff Iff.rfl fun _ => ?_
    cases a
    grind
  encodes _ := rfl

def StatusCounts.format : RecordFormat StatusCounts where
  fields := [
    required "pending" (·.pending) int64 .int stable_int64 floatFree_int,
    required "delivered" (·.delivered) int64 .int stable_int64 floatFree_int,
    required "failed" (·.failed) int64 .int stable_int64 floatFree_int]
  distinct := by decide
  decodes _ depth a := by
    refine record?_bind_eq_some_iff fun values => ?_
    iterate 3 refine RecordField.bind_eq_some_iff Iff.rfl fun _ => ?_
    cases a
    grind
  encodes _ := rfl

def UploadFile.format : RecordFormat UploadFile where
  fields := [
    required "id" (·.id) uuid ofUuid stable_uuid floatFree_ofUuid,
    nullable "batch_id" (·.batchId) uuid ofUuid stable_uuid floatFree_ofUuid nofun,
    nullable "uploaded_by" (·.uploadedBy) uuid ofUuid stable_uuid floatFree_ofUuid nofun,
    required "original_filename" (·.filename) text .str stable_text floatFree_str,
    required "content_type" (·.contentType) text .str stable_text floatFree_str,
    required "size_bytes" (·.sizeBytes) int64 .int stable_int64 floatFree_int,
    required "sha256" (·.sha256) text .str stable_text floatFree_str,
    jsonValue "metadata" (·.metadata),
    required "status" (·.status) fileStatus FileStatus.toJson stable_fileStatus (floatFree_str
      ·.name),
    required "error_message" (·.errorMessage) text .str stable_text floatFree_str,
    required "created_at" (·.createdAt) instant ofInstant stable_instant floatFree_ofInstant,
    required "updated_at" (·.updatedAt) instant ofInstant stable_instant floatFree_ofInstant]
  distinct := by decide
  decodes _ depth a := by
    refine record?_bind_eq_some_iff fun values => ?_
    iterate 12 refine RecordField.bind_eq_some_iff Iff.rfl fun _ => ?_
    cases a
    grind
  encodes _ := rfl

def OutboxEntry.format : RecordFormat OutboxEntry where
  fields := [
    required "id" (·.id) uuid ofUuid stable_uuid floatFree_ofUuid,
    required "aggregate_type" (·.aggregateType) text .str stable_text floatFree_str,
    required "aggregate_id" (·.aggregateId) text .str stable_text floatFree_str,
    required "event_type" (·.eventType) text .str stable_text floatFree_str,
    jsonValue "payload" (·.payload),
    required "status" (·.status) outboxStatus OutboxStatus.toJson stable_outboxStatus
      (floatFree_str ·.name),
    required "idempotency_key" (·.idempotencyKey) text .str stable_text floatFree_str,
    required "attempts" (·.attempts) int32 .int stable_int32 floatFree_int,
    required "max_attempts" (·.maxAttempts) int32 .int stable_int32 floatFree_int,
    nullable "next_attempt_at" (·.nextAttemptAt) instant ofInstant stable_instant
      floatFree_ofInstant nofun,
    nullable "delivered_at" (·.deliveredAt) instant ofInstant stable_instant floatFree_ofInstant
      nofun,
    required "error_message" (·.errorMessage) text .str stable_text floatFree_str,
    required "created_at" (·.createdAt) instant ofInstant stable_instant floatFree_ofInstant,
    required "updated_at" (·.updatedAt) instant ofInstant stable_instant floatFree_ofInstant]
  Whole e := e.isReadable = true
  distinct := by decide
  decodes _ depth a := by
    refine record?_bind_eq_some_iff fun values => ?_
    iterate 14 refine RecordField.bind_eq_some_iff Iff.rfl fun _ => ?_
    cases a
    grind
  encodes _ := rfl

theorem UploadFile.exact_format {f : UploadFile} (exact : f.metadata.FloatFree) :
    ∀ field ∈ format.fields, field.Exact f := by
  simp [format, required, nullable, jsonValue, exact]

theorem OutboxEntry.exact_format {e : OutboxEntry} (exact : e.payload.FloatFree) :
    ∀ field ∈ format.fields, field.Exact e := by
  simp [format, required, nullable, jsonValue, exact]

end

namespace Wire

/-- Whatever a text stands for is read back from the text that is written for it. -/
def Normal (α : Type) [Wire α] : Prop :=
  ∀ (s : String) (a : α), ofText? s = some a → ofText? (text a) = some a

theorem normal_of_stable {α : Type} [Wire α] (exact : ∀ a : α, (toJson a).FloatFree)
    (stable : Decoder.Stable (α := α) decoder toJson) : Normal α := by
  intro s a isRead
  obtain ⟨tree, _, isRead⟩ := Option.bind_eq_some_iff.mp isRead
  rw [ofText?_text (exact a), stable isRead]

/-- A record in which every field comes back. -/
theorem normal_of_format {α : Type} [Wire α] (format : RecordFormat α)
    (plain : ∀ (a : α), ∀ field ∈ format.fields, field.Exact a ∧ field.Sound a) : Normal α :=
  fun _ a isRead => (text_again_iff format isRead fun field member => (plain a field member).1).mpr
    fun field member => (plain a field member).2

end Wire

/-- A file as an array, the reserved name in the second place of its metadata. -/
def reservedRow : Json :=
  .arr [.str "00000000-0000-0000-0000-000000000000", .null, .null, .str "a", .str "", .int 0,
    .str "", .obj [("a", .int 1), (JsonTree.embeddedName, .str "[1]")], .str "stored", .str "",
    .str "1970-01-01T00:00:00Z", .str "1970-01-01T00:00:00Z"]

/-- The file that it stands for. -/
def reservedFile : UploadFile where
  id := .nil
  batchId := none
  uploadedBy := none
  filename := "a"
  contentType := ""
  sizeBytes := 0
  sha256 := ""
  metadata := .obj [(JsonTree.embeddedName, .str "[1]"), ("a", .int 1)]
  status := .stored
  errorMessage := ""
  createdAt := ⟨0, 0⟩
  updatedAt := ⟨0, 0⟩

/-- A text is read as a file, but what is written for the file is not read at all. -/
theorem reserved_metadata_not_read_back :
    Wire.ofText? reservedRow.compact = some reservedFile ∧ reservedFile.metadata.FloatFree ∧
      Wire.ofText? (α := UploadFile) (Wire.text reservedFile) = none := by
  have metadata : (Json.obj [("a", .int 1), (JsonTree.embeddedName, .str "[1]")]).FloatFree :=
    .obj (by simp)
  have given : reservedRow.FloatFree := .arr (by simp [metadata])
  have exact : reservedFile.metadata.FloatFree := .obj (by simp)
  refine ⟨?_, exact, ?_⟩
  · rw [Wire.ofText?, JsonTree.ofText?_compact given]
    rfl
  · rw [Wire.ofText?_text (UploadFile.format.floatFree (UploadFile.exact_format exact))]
    rfl

open RecordField in
/-- Statuses, counters, results and records without a JSON value in them are read back from their
own texts, whatever text they were read from. A record with a JSON value in it, free of
floating-point numbers, is read back exactly when that value nests less than 127 deep and none of
its objects has the reserved name first. -/
theorem text_normalForm :
    Wire.Normal OutboxStatus ∧ Wire.Normal FileStatus ∧ Wire.Normal BatchStatus ∧
    Wire.Normal SessionStatus ∧ Wire.Normal PartStatus ∧
    Wire.Normal UploadBatch ∧ Wire.Normal UploadSession ∧ Wire.Normal UploadPart ∧
    Wire.Normal DeliveryResult ∧ Wire.Normal DeliveryStats ∧ Wire.Normal CleanupStats ∧
    Wire.Normal StatusCounts ∧
    (∀ (s : String) (e : OutboxEntry), Wire.ofText? s = some e → e.payload.FloatFree →
      (Wire.ofText? (Wire.text e) = some e ↔ e.payload.nesting < 127 ∧ ¬e.payload.Embeds)) ∧
    (∀ (s : String) (f : UploadFile), Wire.ofText? s = some f → f.metadata.FloatFree →
      (Wire.ofText? (Wire.text f) = some f ↔ f.metadata.nesting < 127 ∧ ¬f.metadata.Embeds)) := by
  refine ⟨?_, ?_, ?_, ?_, ?_, ?_, ?_, ?_, ?_, ?_, ?_, ?_, ?_, ?_⟩
  · exact Wire.normal_of_stable (fun s => .str s.name) Decoder.stable_outboxStatus
  · exact Wire.normal_of_stable (fun s => .str s.name) Decoder.stable_fileStatus
  · exact Wire.normal_of_stable (fun s => .str s.name) Decoder.stable_batchStatus
  · exact Wire.normal_of_stable (fun s => .str s.name) Decoder.stable_sessionStatus
  · exact Wire.normal_of_stable (fun s => .str s.name) Decoder.stable_partStatus
  · exact Wire.normal_of_format UploadBatch.format (by simp [UploadBatch.format, required, nullable])
  · exact Wire.normal_of_format UploadSession.format (by simp [UploadSession.format, required])
  · exact Wire.normal_of_format UploadPart.format (by simp [UploadPart.format, required])
  · exact Wire.normal_of_format DeliveryResult.format
      (by simp [DeliveryResult.format, required, nullable])
  · exact Wire.normal_of_format DeliveryStats.format (by simp [DeliveryStats.format, required])
  · exact Wire.normal_of_format CleanupStats.format (by simp [CleanupStats.format, required])
  · exact Wire.normal_of_format StatusCounts.format (by simp [StatusCounts.format, required])
  · intro s e isRead exact
    refine (Wire.text_again_iff OutboxEntry.format isRead (OutboxEntry.exact_format exact)).trans ?_
    simp [OutboxEntry.format, required, nullable, jsonValue]
  · intro s f isRead exact
    refine (Wire.text_again_iff UploadFile.format isRead (UploadFile.exact_format exact)).trans ?_
    simp [UploadFile.format, required, nullable, jsonValue]

/-- An entry as an array: the identifier in braces, the status as an object, a leap second with an
offset and a year of five digits. -/
def spelledRow : Json :=
  .arr [.str "\x7b0190F6A2-7C4E-7A00-8000-000000000001\x7d", .str "file", .str "7",
    .str "file.stored", .obj [("b", .arr [.int 1]), ("a", .null)], .obj [("pending", .null)],
    .str "k", .int 0, .int 5, .str "2016-12-31 22:59:60.5-01:00", .null, .str "",
    .str "+12026-01-01t00:00:00.000000001Z", .str "1970-01-01T00:00:00Z"]

/-- The entry that it stands for. -/
def spelledEntry : OutboxEntry where
  id := .ofNat 0x0190F6A27C4E7A008000000000000001
  aggregateType := "file"
  aggregateId := "7"
  eventType := "file.stored"
  payload := .obj [("a", .null), ("b", .arr [.int 1])]
  status := .pending
  idempotencyKey := "k"
  attempts := 0
  maxAttempts := 5
  nextAttemptAt := some ⟨1483228799, 1500000000⟩
  deliveredAt := none
  errorMessage := ""
  createdAt := ⟨317336745600, 1⟩
  updatedAt := ⟨0, 0⟩

theorem text_normalForm_spelled :
    Wire.ofText? spelledRow.compact = some spelledEntry ∧ spelledEntry.payload.FloatFree ∧
      spelledEntry.payload.nesting < 127 ∧ ¬spelledEntry.payload.Embeds ∧
      Wire.ofText? (Wire.text spelledEntry) = some spelledEntry := by
  have one : (Json.arr [.int 1]).FloatFree := .arr (by simp)
  have payload : (Json.obj [("b", .arr [.int 1]), ("a", .null)]).FloatFree := .obj (by simp [one])
  have status : (Json.obj [("pending", .null)]).FloatFree := .obj (by simp)
  have given : spelledRow.FloatFree := .arr (by simp [payload, status])
  have read : Wire.ofText? spelledRow.compact = some spelledEntry := by
    rw [Wire.ofText?, JsonTree.ofText?_compact given]
    rfl
  have exact : spelledEntry.payload.FloatFree := .obj (by simp [one])
  have plain : ¬spelledEntry.payload.Embeds := by
    refine Json.not_embeds_obj_iff.mpr ⟨rfl, ?_⟩
    simp [Json.not_embeds_arr_iff]
  obtain ⟨_, _, _, _, _, _, _, _, _, _, _, _, entries, _⟩ := text_normalForm
  exact ⟨read, exact, by decide, plain, (entries _ _ read exact).mpr ⟨by decide, plain⟩⟩

end OutboxRelay
