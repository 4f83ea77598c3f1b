import OutboxRelay.Proofs.FileEvents
import OutboxRelay.Proofs.UnitCourse

namespace OutboxRelay

theorem toNat_digitChar_ne_zero {n : Nat} (small : n < 16) : (Nat.digitChar n).toNat ≠ 0 := by
  have all : ∀ a : Fin 16, (Nat.digitChar a).toNat ≠ 0 := by decide
  exact all ⟨n, small⟩

theorem toNat_ne_zero_of_mem_fixedHex {width n : Nat} {c : Char} (member : c ∈ fixedHex width n) :
    c.toNat ≠ 0 := by
  induction width generalizing n with
  | zero => exact absurd member List.not_mem_nil
  | succ width ih =>
    rw [fixedHex, List.mem_append, List.mem_singleton] at member
    rcases member with front | rfl
    · exact ih front
    · exact toNat_digitChar_ne_zero (Nat.mod_lt n (by decide))

namespace Uuid

theorem hasNull_text (id : Uuid) : hasNull id.text = false := by
  refine hasNull_eq_false_iff.mpr fun c member => ?_
  rw [text, String.toList_ofList, chars, hyphenate] at member
  have digits : ∀ part : List Char, part ⊆ fixedHex 32 id.bits.toNat → c ∈ part → c.toNat ≠ 0 :=
    fun _ within there => toNat_ne_zero_of_mem_fixedHex (within there)
  have slice : ∀ from' count, ((fixedHex 32 id.bits.toNat).drop from').take count ⊆
      fixedHex 32 id.bits.toNat :=
    fun _ _ => List.Subset.trans (List.take_subset _ _) (List.drop_subset _ _)
  simp only [List.mem_append, List.mem_cons] at member
  rcases member with part | rfl | part | rfl | part | rfl | part | rfl | part
  · exact digits _ (List.take_subset _ _) part
  · decide
  · exact digits _ (slice 8 4) part
  · decide
  · exact digits _ (slice 12 4) part
  · decide
  · exact digits _ (slice 16 4) part
  · decide
  · exact digits _ (List.drop_subset _ _) part

/-- The key of the event that tells of a status of a batch. -/
def batchKey (id : Uuid) (status : BatchStatus) : String :=
  "UploadBatch:" ++ id.text ++ ":" ++ status.name

theorem hasNull_batchKey (id : Uuid) (status : BatchStatus) : hasNull (id.batchKey status) = false := by
  rw [batchKey, hasNull_append, hasNull_append, hasNull_append, hasNull_text]
  cases status <;> decide

/-- Identifiers have texts of one length, so the key tells where the status begins. -/
theorem batchKey_injective {a b : Uuid} {status status' : BatchStatus}
    (same : a.batchKey status = b.batchKey status') : a = b ∧ status = status' := by
  have chars := congrArg String.toList same
  rw [batchKey, batchKey] at chars
  simp only [String.toList_append, List.append_assoc] at chars
  obtain ⟨ids, names⟩ := List.append_inj (List.append_cancel_left chars)
    (a.length_text.trans b.length_text.symm)
  have statuses : ∀ s s' : BatchStatus, s.name.toList = s'.name.toList → s = s' := by
    intro s s'
    cases s <;> cases s' <;> decide
  exact ⟨text_injective (String.toList_inj.mp ids),
    statuses _ _ (List.append_cancel_left names)⟩

end Uuid

theorem Json.hasNull_insertField {name : String} {value : Json} {fields : List (String × Json)}
    (clean : OutboxRelay.hasNull name = false) (clean' : value.hasNull = false)
    (others : (Json.obj fields).hasNull = false) :
    (Json.obj (insertField name value fields)).hasNull = false := by
  simp only [hasNull, anyChar, OutboxRelay.hasNull] at clean clean' others ⊢
  induction fields with
  | nil => simp only [insertField, anyCharFields, clean, clean', Bool.or_false]
  | cons first rest ih =>
    simp only [anyCharFields, Bool.or_eq_false_iff] at others
    unfold insertField
    split
    · simp only [anyCharFields, clean, clean', others.2, Bool.or_false]
    · split
      · simp only [anyCharFields, clean, clean', others.1, others.2, Bool.or_false]
      · simp only [anyCharFields, others.1, ih others.2, Bool.or_false]

theorem PayloadBuilder.hasNull_field {builder : PayloadBuilder} {name : String} {value : Json}
    (others : builder.build.hasNull = false) (clean : hasNull name = false)
    (clean' : value.hasNull = false) : (builder.field name value).build.hasNull = false :=
  Json.hasNull_insertField clean clean' others

namespace BatchStatus

theorem event_key (status previous : BatchStatus) (batch : Uuid) (files : List FileStatus) :
    (status.event previous batch files).resolvedKey = batch.batchKey status := by
  have named : ¬(batch.batchKey status).isEmpty = true := by
    rw [Uuid.batchKey, String.append_assoc, String.append_assoc, String.isEmpty_iff,
      String.append_eq_empty_iff]
    exact fun empty => absurd empty.1 (by decide)
  unfold NewOutboxEvent.resolvedKey
  exact if_neg named

/-- An outbox can hold every event of a batch. -/
theorem event_storable (status previous : BatchStatus) (batch : Uuid) (files : List FileStatus) :
    (status.event previous batch files).Storable where
  texts := by
    have constants : hasNull "UploadBatch" = false ∧ hasNull batchFinalized = false := by decide
    rw [event_key]
    simp only [event, List.any_cons, List.any_nil, Uuid.hasNull_batchKey, Uuid.hasNull_text, constants,
      Bool.or_false]
  payload := by
    have names : ∀ s : BatchStatus, s.toJson.hasNull = false := by
      intro s
      cases s <;> decide
    change (PayloadBuilder.build _).hasNull = false
    iterate 6 refine PayloadBuilder.hasNull_field ?_ (by decide) ?_
    · decide
    · exact batch.hasNull_text
    · exact names status
    · exact names previous
    · rfl
    · rfl
    · rfl

/-- Which status files give a batch does not depend on their order. -/
theorem ofFiles_perm {files files' : List FileStatus} (perm : files.Perm files') :
    ofFiles files = ofFiles files' := by
  rw [ofFiles, ofFiles, perm.all_eq, perm.all_eq]

theorem ofFiles_ne_init (files : List FileStatus) : ofFiles files ≠ .init := by
  unfold ofFiles
  split_ifs <;> exact nofun

theorem ofFiles_ne_inProgress (files : List FileStatus) : ofFiles files ≠ .inProgress := by
  unfold ofFiles
  split_ifs <;> exact nofun

end BatchStatus

end OutboxRelay
