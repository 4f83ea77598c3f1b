import Mathlib.Algebra.Group.Nat.Defs
import OutboxRelay.Proofs.JsonOrder
import OutboxRelay.Proofs.UploadWrites
import OutboxRelay.Proofs.UuidText

namespace OutboxRelay

namespace Uuid

/-- The key of the events of a file. -/
def fileKey (id : Uuid) : String := "UploadFile:" ++ id.text

theorem fileKey_injective {a b : Uuid} (same : a.fileKey = b.fileKey) : a = b :=
  text_injective (String.append_right_inj _ |>.mp same)

end Uuid

namespace PayloadBuilder

@[simp] theorem field?_field_self (builder : PayloadBuilder) (name : String) (value : Json) :
    (builder.field name value).build.field? name = some value :=
  Json.lookup_insertField_self name value builder.fields

theorem field?_field_of_ne {name other : String} (different : other ≠ name)
    (builder : PayloadBuilder) (value : Json) :
    (builder.field name value).build.field? other = builder.build.field? other :=
  Json.lookup_insertField_of_ne different value builder.fields

theorem field?_optional_self {name : String} {builder : PayloadBuilder}
    (absent : builder.build.field? name = none) (value : Option Json) :
    (builder.optional name value).build.field? name = value := by
  cases value with
  | none => exact absent
  | some value => exact builder.field?_field_self name value

theorem field?_optional_of_ne {name other : String} (different : other ≠ name)
    (builder : PayloadBuilder) (value : Option Json) :
    (builder.optional name value).build.field? other = builder.build.field? other := by
  cases value with
  | none => rfl
  | some value => exact builder.field?_field_of_ne different value

end PayloadBuilder

namespace UploadFile

theorem event_key (file : UploadFile) (eventType : String) (session : Option Uuid) :
    (file.event eventType session).resolvedKey = file.id.fileKey := rfl

theorem event_status (file : UploadFile) (eventType : String) (session : Option Uuid) :
    (file.event eventType session).resolvedPayload.field? "status" = some file.status.toJson := by
  change (PayloadBuilder.build _).field? "status" = _
  rw [PayloadBuilder.field?_field_of_ne (by decide), PayloadBuilder.field?_optional_of_ne (by decide),
    PayloadBuilder.field?_field_self]

theorem event_session (file : UploadFile) (eventType : String) (session : Option Uuid) :
    (file.event eventType session).resolvedPayload.field? "session_id" =
      session.map Json.ofUuid := by
  have absent : (PayloadBuilder.empty.field "file_id" (Json.ofUuid file.id)
      |>.optional "batch_id" (file.batchId.map Json.ofUuid)).build.field? "session_id" = none := by
    rw [PayloadBuilder.field?_optional_of_ne (by decide), PayloadBuilder.field?_field_of_ne (by decide)]
    rfl
  change (PayloadBuilder.build _).field? "session_id" = _
  rw [PayloadBuilder.field?_field_of_ne (by decide), PayloadBuilder.field?_optional_of_ne (by decide)]
  iterate 5 rw [PayloadBuilder.field?_field_of_ne (by decide)]
  exact PayloadBuilder.field?_optional_self absent _

end UploadFile

/-- No event of a batch has the key of a file. -/
theorem BatchStatus.event_key_ne (status previous : BatchStatus) (batch : Uuid)
    (files : List FileStatus) (id : Uuid) :
    (status.event previous batch files).resolvedKey ≠ id.fileKey := by
  have different : ∀ rest : String, "UploadBatch:" ++ rest ≠ id.fileKey := by
    intro rest same
    have front := congrArg (fun s : String => s.toList.take 7) same
    simp only [Uuid.fileKey, String.toList_append] at front
    rw [List.take_append_of_le_length (by decide), List.take_append_of_le_length (by decide)] at front
    exact absurd front (by decide)
  unfold NewOutboxEvent.resolvedKey
  dsimp only [BatchStatus.event]
  split
  · exact different batch.text
  · rw [String.append_assoc, String.append_assoc]
    exact different _

end OutboxRelay
