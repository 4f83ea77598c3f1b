import OutboxRelay.Proofs.JsonOrder
import OutboxRelay.Proofs.JsonText

namespace OutboxRelay

namespace Json

mutual

/-- How many containers stand in each other. -/
def nesting : Json → Nat
  | .arr items => itemsNesting items + 1
  | .obj fields => fieldsNesting fields + 1
  | .null => 0
  | .bool _ => 0
  | .int _ => 0
  | .float _ => 0
  | .str _ => 0

def itemsNesting : List Json → Nat
  | [] => 0
  | v :: rest => max v.nesting (itemsNesting rest)

def fieldsNesting : List (String × Json) → Nat
  | [] => 0
  | (_, v) :: rest => max v.nesting (fieldsNesting rest)

end

/-- Some object of the value has the reserved name first, so that a reader takes it for an embedded
text. -/
inductive Embeds : Json → Prop
  | here (v : Json) (rest : List (String × Json)) :
      Embeds (.obj ((JsonTree.embeddedName, v) :: rest))
  | item {v : Json} {items : List Json} : v ∈ items → Embeds v → Embeds (.arr items)
  | field {field : String × Json} {fields : List (String × Json)} : field ∈ fields →
      Embeds field.2 → Embeds (.obj fields)

theorem itemsNesting_succ_lt_iff {items : List Json} {depth : Nat} :
    itemsNesting items + 1 < depth ↔ 2 ≤ depth ∧ ∀ v ∈ items, v.nesting < depth - 1 := by
  induction items with
  | nil =>
    rw [itemsNesting]
    simp
    omega
  | cons v rest ih =>
    rw [itemsNesting, List.forall_mem_cons]
    constructor
    · intro deep
      obtain ⟨room, others⟩ := ih.mp (by omega)
      exact ⟨room, by omega, others⟩
    · rintro ⟨room, first, others⟩
      have deep := ih.mpr ⟨room, others⟩
      omega

theorem nesting_arr_lt_iff {items : List Json} {depth : Nat} :
    (Json.arr items).nesting < depth ↔ 2 ≤ depth ∧ ∀ v ∈ items, v.nesting < depth - 1 := by
  rw [nesting, itemsNesting_succ_lt_iff]

theorem fieldsNesting_eq (fields : List (String × Json)) :
    fieldsNesting fields = itemsNesting (fields.map Prod.snd) := by
  induction fields with
  | nil => rfl
  | cons field rest ih => rw [fieldsNesting, ih, List.map_cons, itemsNesting]

theorem nesting_obj_lt_iff {fields : List (String × Json)} {depth : Nat} :
    (Json.obj fields).nesting < depth ↔
      2 ≤ depth ∧ ∀ field ∈ fields, field.2.nesting < depth - 1 := by
  rw [nesting, fieldsNesting_eq, itemsNesting_succ_lt_iff, List.forall_mem_map]

@[simp] theorem not_embeds_null : ¬Json.null.Embeds := nofun

@[simp] theorem not_embeds_int (n : Int) : ¬(Json.int n).Embeds := nofun

@[simp] theorem not_embeds_str (s : String) : ¬(Json.str s).Embeds := nofun

theorem not_embeds_arr_iff {items : List Json} :
    ¬(Json.arr items).Embeds ↔ ∀ v ∈ items, ¬v.Embeds := by
  constructor
  · exact fun plain v member embeds => plain (.item member embeds)
  · intro plain embeds
    cases embeds with
    | item member embeds => exact plain _ member embeds

theorem not_embeds_obj_iff {fields : List (String × Json)} :
    ¬(Json.obj fields).Embeds ↔ JsonTree.isEmbedding (fieldTrees fields) = false ∧
      ∀ field ∈ fields, ¬field.2.Embeds := by
  constructor
  · refine fun plain => ⟨?_, fun field member embeds => plain (.field member embeds)⟩
    rcases fields with _ | ⟨⟨name, v⟩, rest⟩
    · rfl
    · by_contra reserved
      rw [fieldTrees, JsonTree.isEmbedding, Bool.not_eq_false, beq_iff_eq,
        Option.some.injEq] at reserved
      subst reserved
      exact plain (.here v rest)
  · rintro ⟨unreserved, plain⟩ embeds
    cases embeds with
    | here v rest =>
      rw [fieldTrees, JsonTree.isEmbedding, beq_self_eq_true] at unreserved
      cases unreserved
    | field member embeds => exact plain _ member embeds

theorem itemTrees_eq (items : List Json) : itemTrees items = items.map tree := by
  induction items with
  | nil => rfl
  | cons v rest ih => rw [itemTrees, ih, List.map_cons]

theorem fieldTrees_eq (fields : List (String × Json)) :
    fieldTrees fields = fields.map fun field => (some field.1, field.2.tree) := by
  induction fields with
  | nil => rfl
  | cons field rest ih => rw [fieldTrees, ih, List.map_cons]

theorem object_eq (fields : List (String × Json)) : object fields = .obj (gather fields) := rfl

end Json

namespace JsonTree
variable {embedded : String → Option Json} {depth : Nat}

theorem itemsToJson?_eq_some_iff {trees : List JsonTree} {items : List Json} :
    itemsToJson? embedded trees depth = some items ↔
      trees.map (fun tree => tree.toJson? embedded depth) = items.map some := by
  induction trees generalizing items with
  | nil => cases items <;> simp [itemsToJson?]
  | cons tree rest ih =>
    cases items with
    | nil => simp [itemsToJson?, Option.bind_eq_some_iff]
    | cons v items =>
      simp only [itemsToJson?, Option.bind_eq_bind, Option.bind_eq_some_iff, Option.pure_def,
        Option.some.injEq, List.cons.injEq, List.map_cons, ih]
      exact ⟨fun ⟨_, first, _, others, same, same'⟩ => same ▸ same' ▸ ⟨first, others⟩,
        fun ⟨first, others⟩ => ⟨v, first, items, others, rfl, rfl⟩⟩

theorem fieldsToJson?_eq_some_iff {trees : List (Option String × JsonTree)}
    {fields : List (String × Json)} :
    fieldsToJson? embedded trees depth = some fields ↔
      trees.map (fun field => (field.1, field.2.toJson? embedded depth)) =
        fields.map fun field => (some field.1, some field.2) := by
  induction trees generalizing fields with
  | nil => cases fields <;> simp [fieldsToJson?]
  | cons tree rest ih =>
    obtain ⟨name, tree⟩ := tree
    cases fields with
    | nil => simp [fieldsToJson?, Option.bind_eq_some_iff]
    | cons field fields =>
      obtain ⟨name', v⟩ := field
      simp only [fieldsToJson?, Option.bind_eq_bind, Option.bind_eq_some_iff, Option.pure_def,
        Option.some.injEq, List.cons.injEq, Prod.mk.injEq, List.map_cons, ih]
      exact ⟨fun ⟨_, named, _, first, _, others, ⟨same, same'⟩, same''⟩ =>
          same ▸ same' ▸ same'' ▸ ⟨⟨named, first⟩, others⟩,
        fun ⟨⟨named, first⟩, others⟩ => ⟨name', named, v, first, fields, others, ⟨rfl, rfl⟩, rfl⟩⟩

/-- Each value of a list comes from one of the trees. -/
theorem mem_of_itemsToJson? {trees : List JsonTree} {items : List Json} {v : Json}
    (read : itemsToJson? embedded trees depth = some items) (member : v ∈ items) :
    ∃ tree ∈ trees, tree.toJson? embedded depth = some v := by
  have mapped := List.mem_map_of_mem (f := some) member
  rw [← itemsToJson?_eq_some_iff.mp read] at mapped
  exact List.mem_map.mp mapped

theorem mem_of_fieldsToJson? {trees : List (Option String × JsonTree)}
    {fields : List (String × Json)} {field : String × Json}
    (read : fieldsToJson? embedded trees depth = some fields) (member : field ∈ fields) :
    ∃ tree ∈ trees, tree.1 = some field.1 ∧ tree.2.toJson? embedded depth = some field.2 := by
  have mapped := List.mem_map_of_mem (f := fun field => (some field.1, some field.2)) member
  rw [← fieldsToJson?_eq_some_iff.mp read] at mapped
  obtain ⟨tree, there, same⟩ := List.mem_map.mp mapped
  exact ⟨tree, there, congrArg Prod.fst same, congrArg Prod.snd same⟩

/-- What a literal stands for has 64 bits if it is an integer. -/
theorem numberToJson?_proper {n : NumberLiteral} {v : Json} (read : numberToJson? n = some v) :
    v.Proper := by
  unfold numberToJson? at read
  split at read
  · rename_i i isInt
    cases read
    unfold NumberLiteral.toInt? at isInt
    split at isInt
    · dsimp only at isInt
      split at isInt
      · split at isInt
        · cases isInt
          exact .int (by omega) (by omega)
        · cases isInt
      · split at isInt
        · cases isInt
          exact .int (by omega) (by omega)
        · cases isInt
    · cases isInt
  · obtain ⟨x, _, rfl⟩ := Option.map_eq_some_iff.mp read
    exact .float x

/-- Whatever is read is proper, if embedded texts are. -/
theorem toJson?_proper (proper : ∀ s v, embedded s = some v → v.Proper) {tree : JsonTree} {v : Json}
    (read : tree.toJson? embedded depth = some v) : v.Proper := by
  induction depth using Nat.strongRecOn generalizing tree v with
  | ind depth ih =>
    cases tree with
    | null =>
      cases read
      exact .null
    | bool b =>
      cases read
      exact .bool b
    | number n => exact numberToJson?_proper read
    | str s =>
      obtain ⟨text, _, rfl⟩ := Option.map_eq_some_iff.mp read
      exact .str text
    | arr trees =>
      rw [toJson?] at read
      split_ifs at read with room
      obtain ⟨items, list, rfl⟩ := Option.map_eq_some_iff.mp read
      refine .arr fun v member => ?_
      obtain ⟨tree, _, first⟩ := mem_of_itemsToJson? list member
      exact ih (depth - 1) (by omega) first
    | obj trees =>
      rw [toJson?] at read
      split_ifs at read with room embedding
      · obtain ⟨s, _, inner⟩ := Option.bind_eq_some_iff.mp read
        exact proper s v inner
      · obtain ⟨fields, list, rfl⟩ := Option.map_eq_some_iff.mp read
        refine .obj (Json.inOrder_gather fields) fun field member => ?_
        obtain ⟨tree, _, _, first⟩ := mem_of_fieldsToJson? list (Json.mem_gather member)
        exact ih (depth - 1) (by omega) first

/-- No value has the reserved name alone: it is not the first name that is read, and a name that
is read stays. -/
theorem toJson?_ne_reserved (others : ∀ s w, embedded s ≠ some (.obj [(embeddedName, w)]))
    (tree : JsonTree) (w : Json) :
    tree.toJson? embedded depth ≠ some (.obj [(embeddedName, w)]) := by
  intro read
  cases tree with
  | null => cases read
  | bool b => cases read
  | number n =>
    rw [toJson?, numberToJson?] at read
    split at read
    · cases read
    · obtain ⟨_, _, other⟩ := Option.map_eq_some_iff.mp read
      cases other
  | str s =>
    obtain ⟨_, _, other⟩ := Option.map_eq_some_iff.mp read
    cases other
  | arr trees =>
    rw [toJson?] at read
    split_ifs at read
    obtain ⟨_, _, other⟩ := Option.map_eq_some_iff.mp read
    cases other
  | obj trees =>
    rw [toJson?] at read
    split_ifs at read with room embedding
    · obtain ⟨s, _, inner⟩ := Option.bind_eq_some_iff.mp read
      exact others s w inner
    · obtain ⟨fields, list, isObject⟩ := Option.map_eq_some_iff.mp read
      rw [Json.object_eq, Json.obj.injEq] at isObject
      have all := fieldsToJson?_eq_some_iff.mp list
      rcases fields with _ | ⟨field, fields⟩
      · cases isObject
      · rcases trees with _ | ⟨tree, trees⟩
        · cases all
        rw [List.map_cons, List.map_cons, List.cons.injEq, Prod.mk.injEq] at all
        have other : field.1 ≠ embeddedName := by
          intro reserved
          rw [isEmbedding, all.1.1, reserved, beq_self_eq_true] at embedding
          exact embedding rfl
        have there : (Json.gather (field :: fields)).lookup field.1 ≠ none := by
          rw [Json.lookup_gather, Ne, List.lookup_eq_none_iff]
          intro absent
          have different := absent field (List.mem_reverse.mpr List.mem_cons_self)
          exact bne_iff_ne.mp different rfl
        rw [isObject, List.lookup_cons, beq_false_of_ne other] at there
        exact there rfl

theorem embeddedText?_of_two (first second : Option String × JsonTree)
    (rest : List (Option String × JsonTree)) : embeddedText? (first :: second :: rest) = none := by
  obtain ⟨name, tree⟩ := first
  cases tree <;> rfl

theorem toInt?_ofInt {n : Int} (low : -0x8000000000000000 ≤ n)
    (high : n < 0x10000000000000000) : (NumberLiteral.ofInt n).toInt? = some n := by
  have size := Nat.ofDigitChars_ten_toDigits (n := n.natAbs)
  simp only [NumberLiteral.ofInt, NumberLiteral.toInt?, NumberLiteral.isWhole,
    Option.isNone_none, Bool.and_self, if_true, size, decide_eq_true_eq]
  split_ifs with negative
  · congr 1
    omega
  · omega
  · congr 1
    omega
  · omega

theorem fieldsToJson?_fieldTrees_iff {fields read : List (String × Json)} :
    fieldsToJson? embedded (Json.fieldTrees fields) depth = some read ↔
      fields.map (fun field => (some field.1, field.2.tree.toJson? embedded depth)) =
        read.map fun field => (some field.1, some field.2) := by
  rw [fieldsToJson?_eq_some_iff, Json.fieldTrees_eq, List.map_map]
  rfl

/-- Fields that are read keep their order. -/
theorem inOrder_of_read {fields read : List (String × Json)} (ordered : Json.InOrder fields)
    (all : fieldsToJson? embedded (Json.fieldTrees fields) depth = some read) :
    Json.InOrder read := by
  have names := congrArg (List.map Prod.fst) (fieldsToJson?_fieldTrees_iff.mp all)
  have sorted : (fields.map Prod.fst).Pairwise (· < ·) := List.pairwise_map.mpr ordered
  rw [List.map_map, List.map_map] at names
  have same : fields.map Prod.fst = read.map Prod.fst := by
    refine (List.map_inj_right fun _ _ => Option.some.inj).mp ?_
    rw [List.map_map, List.map_map]
    exact names
  rw [same] at sorted
  exact List.pairwise_map.mp sorted

/-- The tree of a value reads as the value if it is not too deep and no part of it is taken for an
embedded text. -/
theorem toJson?_tree_iff (others : ∀ s w, embedded s ≠ some (.obj [(embeddedName, w)])) {v : Json}
    (proper : v.Proper) (exact : v.FloatFree) (room : 0 < depth) :
    v.tree.toJson? embedded depth = some v ↔ v.nesting < depth ∧ ¬v.Embeds := by
  induction proper generalizing depth with
  | null => exact ⟨fun _ => ⟨room, nofun⟩, fun _ => rfl⟩
  | bool b => exact ⟨fun _ => ⟨room, nofun⟩, fun _ => rfl⟩
  | int low high =>
    refine ⟨fun _ => ⟨room, nofun⟩, fun _ => ?_⟩
    rw [Json.tree, toJson?, numberToJson?, toInt?_ofInt low high]
  | float x => cases exact
  | str s => exact ⟨fun _ => ⟨room, nofun⟩, fun _ => rfl⟩
  | @arr items _ ih =>
    cases exact with
    | arr exact =>
      rw [Json.tree, toJson?, Json.nesting_arr_lt_iff, Json.not_embeds_arr_iff, Json.itemTrees_eq]
      split_ifs with shallow
      · exact ⟨nofun, fun ⟨⟨deep, _⟩, _⟩ => absurd shallow (by omega)⟩
      · have list : itemsToJson? embedded (items.map Json.tree) (depth - 1) = some items ↔
            ∀ v ∈ items, v.nesting < depth - 1 ∧ ¬v.Embeds := by
          rw [itemsToJson?_eq_some_iff, List.map_map, List.map_inj_left]
          exact forall₂_congr fun v member => ih v member (exact v member) (by omega)
        rw [Option.map_eq_some_iff]
        simp only [Json.arr.injEq, exists_eq_right, list]
        exact ⟨fun all => ⟨⟨by omega, fun v member => (all v member).1⟩,
            fun v member => (all v member).2⟩,
          fun ⟨⟨_, deep⟩, plain⟩ v member => ⟨deep v member, plain v member⟩⟩
  | @obj fields ordered _ ih =>
    cases exact with
    | obj exact =>
      rw [Json.tree, toJson?, Json.nesting_obj_lt_iff, Json.not_embeds_obj_iff]
      split_ifs with shallow embedding
      · exact ⟨nofun, fun ⟨⟨deep, _⟩, _⟩ => absurd shallow (by omega)⟩
      · refine ⟨fun read => ?_, fun ⟨_, unreserved, _⟩ => ?_⟩
        · obtain ⟨s, isText, inner⟩ := Option.bind_eq_some_iff.mp read
          rcases fields with _ | ⟨⟨name, v⟩, _ | ⟨⟨_, _⟩, rest⟩⟩
          · cases isText
          · rw [Json.fieldTrees, isEmbedding, beq_iff_eq, Option.some.injEq] at embedding
            subst embedding
            exact absurd inner (others s v)
          · rw [Json.fieldTrees, Json.fieldTrees, embeddedText?_of_two] at isText
            cases isText
        · rw [unreserved] at embedding
          cases embedding
      · have unreserved := eq_false_of_ne_true embedding
        rw [Option.map_eq_some_iff]
        constructor
        · rintro ⟨read, list, isObject⟩
          rw [Json.object_eq, (inOrder_of_read ordered list).gather] at isObject
          cases isObject
          have all := List.map_inj_left.mp (fieldsToJson?_fieldTrees_iff.mp list)
          have each := fun field member =>
            (ih field member (exact field member) (by omega)).mp
              (congrArg Prod.snd (all field member))
          exact ⟨⟨by omega, fun field member => (each field member).1⟩, unreserved,
            fun field member => (each field member).2⟩
        · rintro ⟨⟨_, deep⟩, _, plain⟩
          refine ⟨fields, fieldsToJson?_fieldTrees_iff.mpr (List.map_inj_left.mpr ?_), ?_⟩
          · intro field member
            rw [(ih field member (exact field member) (by omega)).mpr
              ⟨deep field member, plain field member⟩]
          · rw [Json.object_eq, Json.InOrder.gather ordered]

end JsonTree

/-! ### Reading a whole text -/

namespace Json

theorem parseEmbedded?_ne_reserved (levels : Nat) (s : String) (w : Json) :
    parseEmbedded? levels s ≠ some (.obj [(JsonTree.embeddedName, w)]) := by
  induction levels generalizing s w with
  | zero => exact nofun
  | succ levels ih =>
    intro read
    obtain ⟨tree, _, read⟩ := Option.bind_eq_some_iff.mp read
    exact JsonTree.toJson?_ne_reserved ih tree w read

theorem parse?_ne_reserved (s : String) (w : Json) :
    parse? s ≠ some (.obj [(JsonTree.embeddedName, w)]) :=
  parseEmbedded?_ne_reserved _ s w

theorem parseEmbedded?_proper (levels : Nat) {s : String} {v : Json}
    (read : parseEmbedded? levels s = some v) : v.Proper := by
  induction levels generalizing s v with
  | zero => cases read
  | succ levels ih =>
    obtain ⟨tree, _, read⟩ := Option.bind_eq_some_iff.mp read
    exact JsonTree.toJson?_proper (fun _ _ => ih) read

theorem parse?_proper {s : String} {v : Json} (read : parse? s = some v) : v.Proper :=
  parseEmbedded?_proper _ read

theorem parse?_compact {v : Json} (exact : v.FloatFree) :
    parse? v.compact =
      v.tree.toJson? (parseEmbedded? v.compact.length) JsonTree.depthLimit := by
  rw [parse?, parseEmbedded?, JsonTree.ofText?_compact exact, Option.bind_some]

/-- Which values are read back from their own text. -/
theorem parse?_compact_iff {v : Json} (proper : v.Proper) (exact : v.FloatFree) :
    parse? v.compact = some v ↔ v.nesting < JsonTree.depthLimit ∧ ¬v.Embeds := by
  rw [parse?_compact exact]
  exact JsonTree.toJson?_tree_iff (parseEmbedded?_ne_reserved _) proper exact (by decide)

end Json

end OutboxRelay
