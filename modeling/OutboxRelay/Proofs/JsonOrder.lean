import Mathlib.Data.List.Induction
import Mathlib.Data.List.Pairwise
import Mathlib.Tactic.SplitIfs
import OutboxRelay.Json.Basic
import OutboxRelay.Text.Digits

namespace OutboxRelay

/-! ### The order of names -/

theorem octet_lt_iff {m n : Nat} (small : m < 256) (small' : n < 256) :
    UInt8.ofNat m < UInt8.ofNat n ↔ m < n := by
  rw [UInt8.lt_iff_toNat_lt, UInt8.toNat_ofNat', UInt8.toNat_ofNat']
  omega

theorem octet_eq_iff {m n : Nat} (small : m < 256) (small' : n < 256) :
    UInt8.ofNat m = UInt8.ofNat n ↔ m = n := by
  rw [← UInt8.toNat_inj, UInt8.toNat_ofNat', UInt8.toNat_ofNat']
  omega

/-- Of two characters the smaller has the smaller octets, whatever follows. -/
theorem utf8EncodeChar_lt {c d : Char} (smaller : c < d) (rest rest' : List UInt8) :
    String.utf8EncodeChar c ++ rest < String.utf8EncodeChar d ++ rest' := by
  have below : c.val.toNat < d.val.toNat := smaller
  have limit : d.val.toNat < 0x110000 := by
    have valid : d.toNat < 0xD800 ∨ 0xDFFF < d.toNat ∧ d.toNat < 0x110000 := d.valid
    have same : d.toNat = d.val.toNat := rfl
    omega
  have thirds : ∀ k, k / 4096 = k / 64 / 64 := fun k => by omega
  have fourths : ∀ k, k / 262144 = k / 64 / 64 / 64 := fun k => by omega
  unfold String.utf8EncodeChar
  generalize c.val.toNat = m at below
  generalize d.val.toNat = n at below limit
  dsimp only
  split_ifs <;>
    simp (disch := omega) only [List.cons_append, List.nil_append, List.cons_lt_cons_iff,
      octet_lt_iff, octet_eq_iff, thirds, fourths] <;>
    omega

/-- The order of texts is that of their octets. -/
theorem octetsOf_lt {s t : String} (smaller : s < t) : octetsOf s < octetsOf t := by
  have lists : ∀ cs ds : List Char, cs < ds →
      cs.flatMap String.utf8EncodeChar < ds.flatMap String.utf8EncodeChar := by
    intro cs ds lex
    induction lex with
    | @nil d ds =>
      rw [List.flatMap_nil, List.flatMap_cons]
      cases octets : String.utf8EncodeChar d with
      | nil => exact absurd octets String.utf8EncodeChar_ne_nil
      | cons octet rest => exact List.nil_lt_cons _ _
    | @rel c cs d ds head =>
      rw [List.flatMap_cons, List.flatMap_cons]
      exact utf8EncodeChar_lt head _ _
    | @cons c cs ds _ ih =>
      rw [List.flatMap_cons, List.flatMap_cons]
      exact List.append_left_lt ih
  exact lists s.toList t.toList (String.lt_iff.mp smaller)

theorem String.lt_of_not_lt {s t : String} (different : s ≠ t) (not_smaller : ¬s < t) : t < s := by
  by_contra not_greater
  exact different (String.le_antisymm (String.not_lt.mp not_greater) (String.not_lt.mp not_smaller))

namespace Json
variable {α : Type} {fields fields' : List (String × α)}

/-- The fields stand in the order of their names, each name once. -/
def InOrder (fields : List (String × α)) : Prop :=
  fields.Pairwise fun a b => a.1 < b.1

theorem lookup_insertField_self {α : Type} (name : String) (value : α) (fields : List (String × α)) :
    (insertField name value fields).lookup name = some value := by
  induction fields with
  | nil => exact List.lookup_cons_self
  | cons first rest ih =>
    unfold insertField
    split
    · exact List.lookup_cons_self
    · rename_i different
      split
      · exact List.lookup_cons_self
      · rw [List.lookup_cons, beq_false_of_ne different]
        exact ih

theorem lookup_insertField_of_ne {α : Type} {name other : String} (different : other ≠ name)
    (value : α) (fields : List (String × α)) :
    (insertField name value fields).lookup other = fields.lookup other := by
  induction fields with
  | nil => rw [insertField, List.lookup_cons, beq_false_of_ne different]
  | cons first rest ih =>
    unfold insertField
    split
    · rename_i same
      rw [List.lookup_cons, List.lookup_cons, ← same, beq_false_of_ne different]
    · split
      · rw [List.lookup_cons, beq_false_of_ne different]
      · rw [List.lookup_cons, List.lookup_cons, ih]

theorem mem_insertField {name : String} {value : α} {field : String × α}
    (member : field ∈ insertField name value fields) :
    field = (name, value) ∨ field ∈ fields := by
  induction fields with
  | nil => exact .inl (List.mem_singleton.mp member)
  | cons first rest ih =>
    obtain ⟨other, old⟩ := first
    rw [insertField] at member
    split_ifs at member with same before
    · rcases List.mem_cons.mp member with rfl | later
      · exact .inl rfl
      · exact .inr (List.mem_cons_of_mem _ later)
    · exact List.mem_cons.mp member
    · rcases List.mem_cons.mp member with rfl | later
      · exact .inr List.mem_cons_self
      · exact (ih later).imp_right (List.mem_cons_of_mem _)

theorem InOrder.insertField (ordered : InOrder fields) (name : String) (value : α) :
    InOrder (insertField name value fields) := by
  induction fields with
  | nil => exact List.pairwise_singleton _ _
  | cons first rest ih =>
    obtain ⟨other, old⟩ := first
    obtain ⟨least, later⟩ := List.pairwise_cons.mp ordered
    rw [Json.insertField]
    split_ifs with same before
    · subst same
      exact List.pairwise_cons.mpr ⟨least, later⟩
    · refine List.pairwise_cons.mpr ⟨fun field member => ?_, ordered⟩
      rcases List.mem_cons.mp member with rfl | inRest
      · exact before
      · exact String.lt_trans before (least field inRest)
    · refine List.pairwise_cons.mpr ⟨fun field member => ?_, ih later⟩
      rcases mem_insertField member with rfl | inRest
      · exact String.lt_of_not_lt same before
      · exact least field inRest

/-- A field that comes after all others is put at the end. -/
theorem insertField_last {name : String} (value : α) (last : ∀ field ∈ fields, field.1 < name) :
    insertField name value fields = fields ++ [(name, value)] := by
  induction fields with
  | nil => rfl
  | cons first rest ih =>
    obtain ⟨other, old⟩ := first
    have after : other < name := last _ List.mem_cons_self
    have different : name ≠ other := by
      rintro rfl
      exact String.lt_irrefl _ after
    rw [insertField, if_neg different, if_neg (String.lt_asymm after),
      ih fun field member => last field (List.mem_cons_of_mem _ member), List.cons_append]

/-- Fields that are put in one after another. -/
def gather (fields : List (String × α)) : List (String × α) :=
  fields.foldl (fun done field => insertField field.1 field.2 done) []

theorem gather_append_singleton (fields : List (String × α)) (field : String × α) :
    gather (fields ++ [field]) = insertField field.1 field.2 (gather fields) := by
  rw [gather, List.foldl_append]
  rfl

theorem inOrder_gather (fields : List (String × α)) : InOrder (gather fields) := by
  induction fields using List.reverseRecOn with
  | nil => exact .nil
  | append_singleton front last ih =>
    rw [gather_append_singleton]
    exact ih.insertField _ _

/-- Fields that are in order already stay as they are. -/
theorem InOrder.gather (ordered : InOrder fields) : gather fields = fields := by
  induction fields using List.reverseRecOn with
  | nil => rfl
  | append_singleton front last ih =>
    obtain ⟨before, _, apart⟩ := List.pairwise_append.mp ordered
    rw [gather_append_singleton, ih before, insertField_last]
    exact fun field member => apart field member last (List.mem_singleton_self last)

theorem mem_gather {field : String × α} (member : field ∈ gather fields) : field ∈ fields := by
  induction fields using List.reverseRecOn with
  | nil => exact member
  | append_singleton front last ih =>
    rw [gather_append_singleton] at member
    rcases mem_insertField member with rfl | earlier
    · exact List.mem_append_right _ (List.mem_singleton_self _)
    · exact List.mem_append_left _ (ih earlier)

/-- Of fields with one name the last one counts. -/
theorem lookup_gather (fields : List (String × α)) (name : String) :
    (gather fields).lookup name = fields.reverse.lookup name := by
  induction fields using List.reverseRecOn with
  | nil => rfl
  | append_singleton front last ih =>
    rw [gather_append_singleton, List.reverse_append, List.reverse_singleton, List.singleton_append]
    by_cases same : name = last.1
    · subst same
      rw [lookup_insertField_self, List.lookup_cons_self]
    · rw [lookup_insertField_of_ne same, ih, List.lookup_cons, beq_false_of_ne same]

/-- The order does not matter where each name is there once. -/
theorem lookup_perm (perm : fields.Perm fields')
    (distinct : (fields.map Prod.fst).Nodup) (name : String) :
    fields.lookup name = fields'.lookup name := by
  induction perm with
  | nil => rfl
  | cons field _ ih =>
    rw [List.lookup_cons, List.lookup_cons, ih (List.nodup_cons.mp distinct).2]
  | swap first second rest =>
    have apart : second.1 ≠ first.1 := fun same =>
      (List.nodup_cons.mp distinct).1 (same ▸ List.mem_cons_self)
    rw [List.lookup_cons, List.lookup_cons, List.lookup_cons, List.lookup_cons]
    by_cases isFirst : name = first.1
    · subst isFirst
      rw [beq_false_of_ne apart.symm]
    · rw [beq_false_of_ne isFirst]
  | trans perm _ ih ih' =>
    rw [ih distinct, ih' ((perm.map Prod.fst).nodup_iff.mp distinct)]

theorem InOrder.lookup_eq_some_iff (ordered : InOrder fields) {name : String} {value : α} :
    fields.lookup name = some value ↔ (name, value) ∈ fields := by
  induction fields with
  | nil => simp
  | cons first rest ih =>
    obtain ⟨other, old⟩ := first
    obtain ⟨least, later⟩ := List.pairwise_cons.mp ordered
    rw [List.lookup_cons, List.mem_cons]
    by_cases same : name = other
    · subst same
      have absent : (name, value) ∉ rest := fun member => String.lt_irrefl name (least _ member)
      simp [absent, eq_comm]
    · simp [beq_false_of_ne same, ih later, same]

/-- Fields in order are told by what each name stands for. -/
theorem InOrder.ext (ordered : InOrder fields) (ordered' : InOrder fields')
    (same : ∀ name, fields.lookup name = fields'.lookup name) : fields = fields' := by
  have members : ∀ field, field ∈ fields ↔ field ∈ fields' := by
    intro field
    exact ordered.lookup_eq_some_iff.symm.trans ((same field.1).symm ▸ ordered'.lookup_eq_some_iff)
  have distinct : ∀ {list : List (String × α)}, InOrder list → list.Nodup := by
    intro list ordered
    refine List.Pairwise.imp (fun {a b} smaller equal => ?_) ordered
    subst equal
    exact String.lt_irrefl _ smaller
  refine ((List.perm_ext_iff_of_nodup (distinct ordered) (distinct ordered')).mpr members).eq_of_pairwise
    (fun a b _ _ first second => ?_) ordered ordered'
  exact absurd second (String.lt_asymm first)

end Json

end OutboxRelay
