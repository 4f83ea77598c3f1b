import OutboxRelay.Json.Column
import OutboxRelay.Proofs.JsonReading
import OutboxRelay.Proofs.UploadEmission

namespace OutboxRelay

namespace Json
variable {v : Json} {fields : List (String × Json)} {depth : Nat}

/-- A value without fractions and without the reserved name. -/
inductive Plain : Json → Prop
  | null : Plain .null
  | bool (b : Bool) : Plain (.bool b)
  | int (n : Int) : Plain (.int n)
  | str (s : String) : Plain (.str s)
  | arr {items : List Json} : (∀ v ∈ items, Plain v) → Plain (.arr items)
  | obj {fields : List (String × Json)} : (∀ field ∈ fields, field.1 ≠ JsonTree.embeddedName) →
      (∀ field ∈ fields, Plain field.2) → Plain (.obj fields)

theorem embedsInColumn_eq_false (free : ∀ field ∈ fields, field.1 ≠ JsonTree.embeddedName) :
    embedsInColumn fields = false := by
  rw [embedsInColumn, Bool.and_eq_false_iff, List.any_eq_false]
  exact .inl fun field member => by simpa using free field member

theorem itemsBackWithin?_of_all {items : List Json}
    (all : ∀ v ∈ items, v.readBackWithin? depth = some v) :
    itemsBackWithin? items depth = some items := by
  induction items with
  | nil => rfl
  | cons v rest ih =>
    obtain ⟨first, others⟩ := List.forall_mem_cons.mp all
    simp only [itemsBackWithin?, first, ih others, bind, pure, Option.bind_some]

theorem fieldsBackWithin?_of_all (all : ∀ field ∈ fields, field.2.readBackWithin? depth = some field.2) :
    fieldsBackWithin? fields depth = some fields := by
  induction fields with
  | nil => rfl
  | cons field rest ih =>
    obtain ⟨first, others⟩ := List.forall_mem_cons.mp all
    simp only [fieldsBackWithin?, first, ih others, bind, pure, Option.bind_some]

/-- A plain value comes out of a column as it went in, unless it nests too deep. -/
theorem readBackWithin?_of_plain (plain : v.Plain) (shallow : v.nesting < depth) :
    v.readBackWithin? depth = some v := by
  induction plain generalizing depth with
  | null | bool | int | str => rfl
  | arr _ ih =>
    obtain ⟨room, inside⟩ := nesting_arr_lt_iff.mp shallow
    rw [readBackWithin?, if_neg (by omega),
      itemsBackWithin?_of_all fun v member => ih v member (inside v member), Option.map_some]
  | obj free _ ih =>
    obtain ⟨room, inside⟩ := nesting_obj_lt_iff.mp shallow
    rw [readBackWithin?, if_neg (by omega), if_neg (Bool.eq_false_iff.mp (embedsInColumn_eq_false free)),
      fieldsBackWithin?_of_all fun field member => ih field member (inside field member),
      Option.map_some]

theorem readBack?_of_plain (plain : v.Plain) (shallow : v.nesting < JsonTree.depthLimit) :
    v.readBack? = some v := readBackWithin?_of_plain plain shallow

end Json

/-- A value that is no container and has no fraction. -/
structure Json.IsSingle (v : Json) : Prop where
  plain : v.Plain
  flat : v.nesting = 0

namespace PayloadBuilder
variable {builder : PayloadBuilder} {name : String}

/-- All fields that were gathered are single values, and none has the reserved name. -/
structure IsFlat (builder : PayloadBuilder) : Prop where
  free : ∀ field ∈ builder.fields, field.1 ≠ JsonTree.embeddedName
  single : ∀ field ∈ builder.fields, field.2.IsSingle

theorem isFlat_empty : empty.IsFlat := ⟨nofun, nofun⟩

theorem IsFlat.field {value : Json} (flat : builder.IsFlat) (free : name ≠ JsonTree.embeddedName)
    (single : value.IsSingle) : (builder.field name value).IsFlat where
  free other member := by
    rcases Json.mem_insertField member with rfl | there
    · exact free
    · exact flat.free other there
  single other member := by
    rcases Json.mem_insertField member with rfl | there
    · exact single
    · exact flat.single other there

theorem IsFlat.optional {value : Option Json} (flat : builder.IsFlat)
    (free : name ≠ JsonTree.embeddedName) (single : ∀ v, value = some v → v.IsSingle) :
    (builder.optional name value).IsFlat := by
  cases value with
  | none => exact flat
  | some v => exact flat.field free (single v rfl)

theorem IsFlat.readBack?_build (flat : builder.IsFlat) :
    builder.build.readBack? = some builder.build := by
  refine Json.readBack?_of_plain (.obj flat.free fun field member => (flat.single field member).plain)
    (Json.nesting_obj_lt_iff.mpr ⟨by decide, fun field member => ?_⟩)
  rw [(flat.single field member).flat]
  decide

end PayloadBuilder

theorem Json.readBack?_empty : Json.empty.readBack? = some Json.empty :=
  PayloadBuilder.isFlat_empty.readBack?_build

theorem Json.isSingle_str (s : String) : (Json.str s).IsSingle := ⟨.str s, rfl⟩

theorem Json.isSingle_int (n : Int) : (Json.int n).IsSingle := ⟨.int n, rfl⟩

/-- The payload of a file event comes out of an outbox as it went in. -/
theorem UploadFile.readBack?_event (file : UploadFile) (eventType : String) (session : Option Uuid) :
    (file.event eventType session).resolvedPayload.readBack? =
      some (file.event eventType session).resolvedPayload := by
  have ids : ∀ (id : Option Uuid) v, id.map Json.ofUuid = some v → v.IsSingle := by
    intro id v isText
    obtain ⟨id, _, rfl⟩ := Option.map_eq_some_iff.mp isText
    exact Json.isSingle_str id.text
  refine PayloadBuilder.IsFlat.readBack?_build (.field (.optional ?_ (by decide) ?_) (by decide) ?_)
  · iterate 5 refine PayloadBuilder.IsFlat.field ?_ (by decide) ?_
    · exact ((PayloadBuilder.isFlat_empty.field (by decide) (Json.isSingle_str _)).optional (by decide)
        (ids file.batchId)).optional (by decide) (ids session)
    · exact Json.isSingle_str file.filename
    · exact Json.isSingle_str file.contentType
    · exact Json.isSingle_int file.sizeBytes
    · exact Json.isSingle_str file.sha256
    · exact Json.isSingle_str _
  · intro v isText
    split at isText <;> cases isText
    exact Json.isSingle_str _
  · exact Json.isSingle_str _

/-- And so does that of a batch event. -/
theorem BatchStatus.readBack?_event (status previous : BatchStatus) (batch : Uuid)
    (files : List FileStatus) : (status.event previous batch files).resolvedPayload.readBack? =
      some (status.event previous batch files).resolvedPayload := by
  refine PayloadBuilder.IsFlat.readBack?_build ?_
  iterate 6 refine PayloadBuilder.IsFlat.field ?_ (by decide) ?_
  · exact PayloadBuilder.isFlat_empty
  · exact Json.isSingle_str batch.text
  · exact Json.isSingle_str _
  · exact Json.isSingle_str _
  all_goals exact Json.isSingle_int _

namespace OutboxSettings
variable {settings : OutboxSettings} {id : Uuid} {event : NewOutboxEvent} {now : Instant}

theorem payload_newEntry (same : event.resolvedPayload.readBack? = some event.resolvedPayload) :
    (settings.newEntry id event now).payload = event.resolvedPayload := by
  rw [newEntry, same, Option.getD_some]

theorem isReadable_newEntry (same : event.resolvedPayload.readBack? = some event.resolvedPayload) :
    (settings.newEntry id event now).isReadable = true := by
  rw [newEntry, same, Option.isSome_some]

end OutboxSettings

end OutboxRelay
