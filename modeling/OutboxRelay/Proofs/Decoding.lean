import OutboxRelay.Json.Decoder
import OutboxRelay.Proofs.InstantText
import OutboxRelay.Proofs.JsonReading
import OutboxRelay.Proofs.UuidText

namespace OutboxRelay

/-! ### Values without floating-point numbers -/

namespace Json

@[simp] theorem floatFree_null : Json.null.FloatFree := .null

@[simp] theorem floatFree_bool (b : Bool) : (Json.bool b).FloatFree := .bool b

@[simp] theorem floatFree_int (n : Int) : (Json.int n).FloatFree := .int n

@[simp] theorem floatFree_str (s : String) : (Json.str s).FloatFree := .str s

@[simp] theorem floatFree_ofNat (n : Nat) : (ofNat n).FloatFree := .int n

@[simp] theorem floatFree_ofUuid (u : Uuid) : (ofUuid u).FloatFree := .str u.text

@[simp] theorem floatFree_ofInstant (t : Instant) : (ofInstant t).FloatFree := .str t.text

@[simp] theorem floatFree_ofOption {α : Type} {encode : α → Json}
    (exact : ∀ a, (encode a).FloatFree) (a? : Option α) : (ofOption encode a?).FloatFree := by
  cases a? with
  | none => exact .null
  | some a => exact exact a

theorem floatFree_object {fields : List (String × Json)}
    (exact : ∀ field ∈ fields, field.2.FloatFree) : (object fields).FloatFree :=
  .obj fun field member => exact field (mem_gather member)

end Json

namespace Decoder
variable {α : Type} {read : Decoder α} {write : α → Json}

/-- Whatever is read is read back from what is written for it, at any depth. -/
def Stable (read : Decoder α) (write : α → Json) : Prop :=
  ∀ {tree : JsonTree} {depth : Nat} {a : α}, read tree depth = some a →
    ∀ depth', read (write a).tree depth' = some a

/-! ### Single values -/

theorem stable_text : Stable text .str := fun _ _ => rfl

theorem stable_bool : Stable bool .bool := fun _ _ => rfl

theorem int_eq_some {low high n : Int} {tree : JsonTree} {depth : Nat}
    (isRead : int low high tree depth = some n) : low ≤ n ∧ n ≤ high := by
  unfold int at isRead
  split at isRead
  · obtain ⟨_, within⟩ := Option.filter_eq_some_iff.mp isRead
    simpa using within
  · cases isRead

theorem int_ofInt {low high n : Int} (least : -0x8000000000000000 ≤ low)
    (greatest : high < 0x10000000000000000) (within : low ≤ n ∧ n ≤ high) (depth : Nat) :
    int low high (Json.int n).tree depth = some n := by
  rw [Json.tree, int, JsonTree.toInt?_ofInt (by omega) (by omega), Option.filter_some, if_pos]
  simpa using within

theorem stable_int {low high : Int} (least : -0x8000000000000000 ≤ low)
    (greatest : high < 0x10000000000000000) : Stable (int low high) .int :=
  fun isRead depth => int_ofInt least greatest (int_eq_some isRead) depth

theorem stable_nat {high : Nat} (greatest : high < 0x10000000000000000) :
    Stable (nat high) Json.ofNat := by
  intro tree depth n isRead depth'
  obtain ⟨i, isInt, rfl⟩ := Option.map_eq_some_iff.mp isRead
  have within := int_eq_some isInt
  have again : int 0 high (Json.int i).tree depth' = some i :=
    int_ofInt (by omega) (by omega) within depth'
  refine Option.map_eq_some_iff.mpr ⟨i, ?_, rfl⟩
  rw [Json.ofNat, Int.toNat_of_nonneg within.1]
  exact again

theorem stable_uuid : Stable uuid Json.ofUuid := by
  intro tree depth id _ depth'
  rw [Json.ofUuid, Json.tree, uuid, Option.bind_some, id.ofText?_text]

theorem stable_instant : Stable instant Json.ofInstant := by
  intro tree depth t isRead depth'
  unfold instant at isRead
  split at isRead
  · obtain ⟨s, _, text⟩ := Option.bind_eq_some_iff.mp isRead
    rw [Json.ofInstant, Json.tree, instant, Option.bind_some,
      Instant.ofText?_text (Instant.sound_of_ofText? text)]
  · cases isRead

theorem stable_named {ofName? : String → Option α} {name : α → String}
    (known : ∀ a, ofName? (name a) = some a) :
    Stable (named ofName?) fun a => .str (name a) := by
  intro tree depth a _ depth'
  rw [Json.tree, named, Option.bind_some, known]

theorem stable_option (stable : Stable read write) (seen : ∀ a, (write a).tree ≠ .null) :
    Stable (option read) (Json.ofOption write) := by
  intro tree depth a? isRead depth'
  cases a? with
  | none => rfl
  | some a =>
    have inner : read tree depth = some a := by
      unfold option at isRead
      split at isRead
      · cases isRead
      · simpa using isRead
    rw [Json.ofOption, option, stable inner depth', Option.map_some]
    exact seen a

/-! ### Records -/

theorem lookup_map_tree (fields : List (String × Json)) (name : String) :
    (fields.map fun field => (field.1, field.2.tree)).lookup name =
      (fields.lookup name).map Json.tree := by
  induction fields with
  | nil => rfl
  | cons field rest ih =>
    rw [List.map_cons, List.lookup_cons, List.lookup_cons, ih]
    cases name == field.1 <;> rfl

/-- Known names that stand in order are all kept. -/
theorem knownFields?_fieldTrees {names : List String} {fields : List (String × Json)}
    (ordered : Json.InOrder fields) (known : ∀ field ∈ fields, field.1 ∈ names) :
    knownFields? names (Json.fieldTrees fields) =
      some (fields.map fun field => (field.1, field.2.tree)) := by
  induction fields with
  | nil => rfl
  | cons field rest ih =>
    obtain ⟨least, later⟩ := List.pairwise_cons.mp ordered
    have absent : rest.lookup field.1 = none := by
      rw [List.lookup_eq_none_iff]
      refine fun other member => bne_iff_ne.mpr fun same => ?_
      have smaller := least other member
      rw [same] at smaller
      exact String.lt_irrefl _ smaller
    have kept := ih later fun other member => known other (List.mem_cons_of_mem field member)
    simp only [Json.fieldTrees, knownFields?, kept, Option.bind_eq_bind, Option.bind_some,
      if_pos (known field List.mem_cons_self), lookup_map_tree, absent, Option.map_none,
      Option.isSome_none, Bool.false_eq_true, if_false, List.map_cons]

/-- The fields of a record are found among the fields that an object is made of. -/
theorem record?_object {names : List String} {fields : List (String × Json)} {depth : Nat}
    (spare : Nat) (distinct : (fields.map Prod.fst).Nodup)
    (known : ∀ field ∈ fields, field.1 ∈ names) (room : 2 ≤ depth) :
    ∃ values, record? names spare (Json.object fields).tree depth = some values ∧
      ∀ name, values.lookup name = (fields.lookup name).map Json.tree := by
  rw [Json.object_eq, Json.tree, record?, if_neg (by omega), knownFields?_fieldTrees
    (Json.inOrder_gather fields) fun field member => known field (Json.mem_gather member)]
  refine ⟨_, rfl, fun name => ?_⟩
  rw [lookup_map_tree, Json.lookup_gather]
  congr 1
  exact Json.lookup_perm (List.reverse_perm fields)
    (((List.reverse_perm fields).map Prod.fst).nodup_iff.mpr distinct) name

/-- What is read of a record depends on its fields. -/
theorem record?_bind_eq_some_iff {names : List String} {spare depth : Nat} {tree : JsonTree} {a : α}
    {body : List (String × JsonTree) → Option α} {p : List (String × JsonTree) → Prop}
    (reads : ∀ values, body values = some a ↔ p values) :
    record? names spare tree depth >>= body = some a ↔
      ∃ values, record? names spare tree depth = some values ∧ p values :=
  Option.bind_eq_some_iff.trans (exists_congr fun values => and_congr_right fun _ => reads values)

section Fields
variable {name : String} {fields values : List (String × JsonTree)} {depth depth' : Nat}

theorem field_again {a : α} (stable : Stable read write)
    (isRead : field name read fields depth = some a)
    (there : values.lookup name = some (write a).tree) :
    field name read values depth' = some a := by
  obtain ⟨tree, _, inner⟩ := Option.bind_eq_some_iff.mp isRead
  rw [field, there, Option.bind_some]
  exact stable inner _

theorem fieldOr_again {a? : Option α} (stable : Stable read write)
    (seen : ∀ a, (write a).tree ≠ .null)
    (isRead : fieldOr name (option read) none fields depth = some a?)
    (there : values.lookup name = some (Json.ofOption write a?).tree) :
    fieldOr name (option read) none values depth' = some a? := by
  rw [fieldOr, there]
  unfold fieldOr at isRead
  split at isRead
  · exact stable_option stable seen isRead _
  · cases isRead
    rfl

/-- A JSON value within a record is read back if it is not too deep and nothing in it is taken for
an embedded text. -/
theorem field_json_iff {v : Json} (isRead : field name json fields depth = some v)
    (exact : v.FloatFree) (there : values.lookup name = some v.tree) (room : 1 < depth') :
    field name json values depth' = some v ↔ v.nesting < depth' - 1 ∧ ¬v.Embeds := by
  obtain ⟨tree, _, inner⟩ := Option.bind_eq_some_iff.mp isRead
  have proper : v.Proper := JsonTree.toJson?_proper (fun _ _ => Json.parse?_proper) inner
  rw [field, there, Option.bind_some]
  exact JsonTree.toJson?_tree_iff Json.parse?_ne_reserved proper exact (by omega)

end Fields

end Decoder

/-- A field of a record: how it is read and written. If it is exact it comes back from what is
written for it just if it is sound. -/
structure RecordField (α : Type) where
  name : String
  Reads : List (String × JsonTree) → Nat → α → Prop
  write : α → Json
  Exact : α → Prop
  Sound : α → Prop
  floatFree : ∀ {a}, Exact a → (write a).FloatFree
  again : ∀ {fields values depth a}, Reads fields depth a → Exact a →
    values.lookup name = some (write a).tree → (Reads values JsonTree.depthLimit a ↔ Sound a)

namespace RecordField
variable {α β : Type}
open Decoder

section
variable (name : String) (get : α → β) (read : Decoder β) (write : β → Json)
  (stable : Stable read write) (floatFree : ∀ v, (write v).FloatFree)

def required : RecordField α where
  name
  Reads values depth a := field name read values depth = some (get a)
  write a := write (get a)
  Exact _ := True
  Sound _ := True
  floatFree _ := floatFree _
  again isRead _ there := iff_true_intro (field_again stable isRead there)

end

section
variable (name : String) (get : α → Option β) (read : Decoder β) (write : β → Json)
  (stable : Stable read write) (floatFree : ∀ v, (write v).FloatFree)
  (seen : ∀ v, (write v).tree ≠ .null)

def nullable : RecordField α where
  name
  Reads values depth a := fieldOr name (option read) none values depth = some (get a)
  write a := Json.ofOption write (get a)
  Exact _ := True
  Sound _ := True
  floatFree _ := Json.floatFree_ofOption floatFree _
  again isRead _ there := iff_true_intro (fieldOr_again stable seen isRead there)

end

def jsonValue (name : String) (get : α → Json) : RecordField α where
  name
  Reads values depth a := field name Decoder.json values depth = some (get a)
  write := get
  Exact a := (get a).FloatFree
  Sound a := (get a).nesting < 127 ∧ ¬(get a).Embeds
  floatFree exact := exact
  again isRead exact there := field_json_iff isRead exact there (by decide)

/-- The value that is written for a field is found under its name. -/
theorem lookup_written {fields : List (RecordField α)} (distinct : (fields.map (·.name)).Nodup)
    (a : α) {field : RecordField α} (member : field ∈ fields) :
    (fields.map fun field => (field.name, field.write a)).lookup field.name =
      some (field.write a) := by
  induction fields with
  | nil => cases member
  | cons first rest ih =>
    obtain ⟨apart, others⟩ := List.nodup_cons.mp distinct
    rw [List.map_cons, List.lookup_cons]
    rcases List.mem_cons.mp member with rfl | later
    · rw [beq_self_eq_true]
    · have different : field.name ≠ first.name := by
        intro same
        refine apart (List.mem_map.mpr ⟨field, later, same⟩)
      rw [beq_false_of_ne different]
      exact ih others later

/-- One field after the other is read; what was read before is in `p`. -/
theorem bind_eq_some_iff {x : Option β} {k : β → Option α} {a : α} {b : β} {p : Prop}
    {values : List (String × JsonTree)} {depth : Nat} {first : RecordField α}
    {rest : List (RecordField α)} (reads : first.Reads values depth a ↔ x = some b)
    (others : ∀ v, k v = some a ↔ (v = b ∧ p) ∧ ∀ field ∈ rest, field.Reads values depth a) :
    x >>= k = some a ↔ p ∧ ∀ field ∈ first :: rest, field.Reads values depth a := by
  rw [Option.bind_eq_bind, Option.bind_eq_some_iff, List.forall_mem_cons, reads]
  simp only [others]
  grind

end RecordField

/-- How a record is read and written field by field. -/
structure RecordFormat (α : Type) [Wire α] where
  fields : List (RecordField α)
  /-- What holds of a record that is read, beside its fields. -/
  Whole : α → Prop := fun _ => True
  distinct : (fields.map (·.name)).Nodup
  decodes : ∀ tree depth a, Wire.decoder tree depth = some a ↔ ∃ values,
    Decoder.record? (fields.map (·.name)) 0 tree depth = some values ∧
      Whole a ∧ ∀ field ∈ fields, field.Reads values depth a
  encodes : ∀ a : α, Wire.toJson a =
    Json.object (fields.map fun field => (field.name, field.write a))

namespace RecordFormat
variable {α : Type} [Wire α]

theorem floatFree (format : RecordFormat α) {a : α}
    (exact : ∀ field ∈ format.fields, field.Exact a) : (Wire.toJson a).FloatFree := by
  rw [format.encodes]
  exact Json.floatFree_object
    (List.forall_mem_map.mpr fun field member => field.floatFree (exact field member))

/-- Whatever was read is read back from its tree just if all its fields are sound. -/
theorem decoder_again_iff (format : RecordFormat α) {a : α} {tree : JsonTree} {depth : Nat}
    (isRead : Wire.decoder tree depth = some a)
    (exact : ∀ field ∈ format.fields, field.Exact a) :
    Wire.decoder (Wire.toJson a).tree JsonTree.depthLimit = some a ↔
      ∀ field ∈ format.fields, field.Sound a := by
  obtain ⟨given, _, whole, gave⟩ := (format.decodes tree depth a).mp isRead
  have names : (format.fields.map fun field => (field.name, field.write a)).map Prod.fst =
      format.fields.map (·.name) := List.map_map
  obtain ⟨values, isObject, there⟩ := Decoder.record?_object 0 (names ▸ format.distinct)
    (List.forall_mem_map.mpr fun field member => List.mem_map_of_mem (f := (·.name)) member)
    (by decide : 2 ≤ JsonTree.depthLimit)
  simp only [format.decodes, format.encodes, isObject, Option.some.injEq, exists_eq_left', whole,
    true_and]
  refine forall₂_congr fun field member => ?_
  refine field.again (gave field member) (exact field member) ?_
  rw [there, RecordField.lookup_written format.distinct a member, Option.map_some]

end RecordFormat

namespace Wire
variable {α : Type} [Wire α]

/-- The text of a value is read through the value's own tree. -/
theorem ofText?_text {a : α} (exact : (toJson a).FloatFree) :
    ofText? (α := α) (text a) = decoder (toJson a).tree JsonTree.depthLimit := by
  rw [ofText?, text, JsonTree.ofText?_compact exact, Option.bind_some]

/-- Whatever text it was, the value that was read from it is read back from its own text just if all
its fields are sound. -/
theorem text_again_iff (format : RecordFormat α) {s : String} {a : α} (isRead : ofText? s = some a)
    (exact : ∀ field ∈ format.fields, field.Exact a) :
    ofText? (text a) = some a ↔ ∀ field ∈ format.fields, field.Sound a := by
  obtain ⟨tree, _, isRead⟩ := Option.bind_eq_some_iff.mp isRead
  rw [ofText?_text (format.floatFree exact)]
  exact format.decoder_again_iff isRead exact

end Wire

end OutboxRelay
