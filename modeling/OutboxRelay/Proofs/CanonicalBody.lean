import OutboxRelay.Payload
import OutboxRelay.Proofs.JsonReading
import OutboxRelay.Signature

namespace OutboxRelay

/-! ### Blanks between the parts of a text -/

/-- Where a character of a JSON text stands. -/
inductive Spot
  | outside
  | quoted
  | escaped

/-- Whether a blank stands outside the quoted texts. -/
def hasBlank : Spot → List Char → Bool
  | _, [] => false
  | .outside, c :: rest =>
    if c = '"' then hasBlank .quoted rest else JsonTree.isSpace c || hasBlank .outside rest
  | .quoted, c :: rest =>
    if c = '"' then hasBlank .outside rest
    else if c = '\\' then hasBlank .escaped rest
    else hasBlank .quoted rest
  | .escaped, _ :: rest => hasBlank .quoted rest

theorem hasBlank_outside {cs : List Char} (seen : ∀ c ∈ cs, JsonTree.isSpace c = false ∧ c ≠ '"')
    (tail : List Char) : hasBlank .outside (cs ++ tail) = hasBlank .outside tail := by
  induction cs with
  | nil => rfl
  | cons c rest ih =>
    obtain ⟨visible, bare⟩ := seen c List.mem_cons_self
    rw [List.cons_append, hasBlank, if_neg bare, visible, Bool.false_or]
    exact ih fun d member => seen d (List.mem_cons_of_mem c member)

theorem hasBlank_quoted {cs : List Char} (plain : ∀ c ∈ cs, c ≠ '"' ∧ c ≠ '\\')
    (tail : List Char) : hasBlank .quoted (cs ++ tail) = hasBlank .quoted tail := by
  induction cs with
  | nil => rfl
  | cons c rest ih =>
    obtain ⟨bare, simple⟩ := plain c List.mem_cons_self
    rw [List.cons_append, hasBlank, if_neg bare, if_neg simple]
    exact ih fun d member => plain d (List.mem_cons_of_mem c member)

/-- What is written for a character leaves a quoted text open. -/
theorem hasBlank_escapeChar (c : Char) (tail : List Char) :
    hasBlank .quoted (Json.escapeChar c ++ tail) = hasBlank .quoted tail := by
  have hexadecimal : ∀ d ∈ fixedHex 4 c.toNat, d ≠ '"' ∧ d ≠ '\\' := by
    intro d member
    obtain ⟨value, digit⟩ := hexValue?_of_mem_fixedHex member
    constructor <;> (rintro rfl; cases digit)
  unfold Json.escapeChar
  split_ifs with quote backslash
  · rfl
  · rfl
  · exact hasBlank_quoted (by simp [quote, backslash]) tail
  all_goals first | rfl | exact hasBlank_quoted hexadecimal tail

theorem hasBlank_quoteChars (cs tail : List Char) :
    hasBlank .outside (Json.quoteChars cs ++ tail) = hasBlank .outside tail := by
  have body : hasBlank .quoted (cs.flatMap Json.escapeChar ++ '"' :: tail) =
      hasBlank .outside tail := by
    induction cs with
    | nil => rfl
    | cons c rest ih => rw [List.flatMap_cons, List.append_assoc, hasBlank_escapeChar, ih]
  rw [Json.quoteChars, List.cons_append, List.append_assoc, List.singleton_append, hasBlank,
    if_pos rfl, body]

theorem hasBlank_intChars (n : Int) (tail : List Char) :
    hasBlank .outside (Json.intChars n ++ tail) = hasBlank .outside tail := by
  have digits : ∀ m, ∀ c ∈ Nat.toDigits 10 m, JsonTree.isSpace c = false ∧ c ≠ '"' := by
    intro m c member
    have digit := isDigit_of_mem_toDigits member
    refine ⟨JsonTree.isSpace_of_isDigit digit, ?_⟩
    rintro rfl
    exact absurd digit (by decide)
  cases n with
  | ofNat m => exact hasBlank_outside (digits m) tail
  | negSucc m => exact hasBlank_outside (digits (m + 1)) tail

namespace Json

theorem hasBlank_chars {v : Json} (exact : v.FloatFree) (tail : List Char) :
    hasBlank .outside (v.chars ++ tail) = hasBlank .outside tail := by
  induction exact generalizing tail with
  | null => rfl
  | bool b => cases b <;> rfl
  | int n => exact hasBlank_intChars n tail
  | str s => exact hasBlank_quoteChars s.toList tail
  | @arr items _ ih =>
    have list : ∀ rest : List Json, (∀ v ∈ rest, v ∈ items) →
        hasBlank .outside (itemChars rest ++ tail) = hasBlank .outside tail := by
      intro rest within
      induction rest with
      | nil => rfl
      | cons v rest ih' =>
        rw [itemChars, List.cons_append, List.append_assoc]
        change hasBlank .outside (v.chars ++ _) = _
        rw [ih v (within v List.mem_cons_self),
          ih' fun w member => within w (List.mem_cons_of_mem v member)]
    cases items with
    | nil => rfl
    | cons v rest => exact list (v :: rest) fun _ member => member
  | @obj fields _ ih =>
    have list : ∀ rest : List (String × Json), (∀ field ∈ rest, field ∈ fields) →
        hasBlank .outside (fieldChars rest ++ tail) = hasBlank .outside tail := by
      intro rest within
      induction rest with
      | nil => rfl
      | cons field rest ih' =>
        rw [fieldChars, List.cons_append, List.append_assoc]
        change hasBlank .outside (quoteChars field.1.toList ++ _) = _
        rw [hasBlank_quoteChars, List.cons_append, List.append_assoc]
        change hasBlank .outside (field.2.chars ++ _) = _
        rw [ih field (within field List.mem_cons_self),
          ih' fun w member => within w (List.mem_cons_of_mem field member)]
    cases fields with
    | nil => rfl
    | cons field rest => exact list (field :: rest) fun _ member => member

theorem hasBlank_compact {v : Json} (exact : v.FloatFree) :
    hasBlank .outside v.compact.toList = false := by
  have text := hasBlank_chars exact []
  rwa [List.append_nil, ← String.toList_ofList (l := v.chars)] at text

/-! ### Different values have different texts -/

theorem eq_of_map_eq {α β : Type} {f : α → β} {xs ys : List α} (same : xs.map f = ys.map f)
    (injective : ∀ x ∈ xs, ∀ y ∈ ys, f x = f y → x = y) : xs = ys := by
  induction xs generalizing ys with
  | nil => exact (List.map_eq_nil_iff.mp same.symm).symm
  | cons x xs ih =>
    cases ys with
    | nil => cases same
    | cons y ys =>
      rw [List.map_cons, List.map_cons, List.cons.injEq] at same
      rw [injective x List.mem_cons_self y List.mem_cons_self same.1, ih same.2 fun a first b second =>
        injective a (List.mem_cons_of_mem x first) b (List.mem_cons_of_mem y second)]

theorem ofInt_injective {m n : Int} (same : NumberLiteral.ofInt m = NumberLiteral.ofInt n) :
    m = n := by
  simp only [NumberLiteral.ofInt, NumberLiteral.mk.injEq, and_true] at same
  obtain ⟨signs, digits⟩ := same
  have sizes : m.natAbs = n.natAbs := by
    rw [← Nat.ofDigitChars_ten_toDigits (n := m.natAbs), digits, Nat.ofDigitChars_ten_toDigits]
  rw [decide_eq_decide] at signs
  omega

theorem tree_injective {v w : Json} (exact : v.FloatFree) (exact' : w.FloatFree)
    (same : v.tree = w.tree) : v = w := by
  induction exact generalizing w with
  | null => cases exact' <;> first | rfl | cases same
  | bool b => cases exact' <;> cases same; rfl
  | int m =>
    cases exact' with
    | int n =>
      rw [tree, tree, JsonTree.number.injEq] at same
      rw [ofInt_injective same]
    | _ => cases same
  | str s => cases exact' <;> cases same; rfl
  | arr _ ih =>
    cases exact' with
    | arr exact' =>
      rw [tree, tree, JsonTree.arr.injEq, itemTrees_eq, itemTrees_eq] at same
      rw [eq_of_map_eq same fun v member w member' => ih v member (exact' w member')]
    | _ => cases same
  | obj _ ih =>
    cases exact' with
    | obj exact' =>
      rw [tree, tree, JsonTree.obj.injEq, fieldTrees_eq, fieldTrees_eq] at same
      rw [eq_of_map_eq same fun field member field' member' equal => ?_]
      simp only [Prod.mk.injEq, Option.some.injEq] at equal
      exact Prod.ext equal.1 (ih field member (exact' field' member') equal.2)
    | _ => cases same

end Json

theorem encodeBody_injective {v w : Json} (exact : v.FloatFree) (exact' : w.FloatFree)
    (same : encodeBody v = encodeBody w) : v = w := by
  have trees := JsonTree.ofText?_compact exact
  rw [← encodeBody, same, encodeBody, JsonTree.ofText?_compact exact', Option.some.injEq] at trees
  exact (Json.tree_injective exact' exact trees).symm

/-! ### The order of the names in a text -/

/-- In each object of a text the names grow, compared octet by octet. -/
inductive JsonTree.Sorted : JsonTree → Prop
  | null : Sorted .null
  | bool (b : Bool) : Sorted (.bool b)
  | number (n : NumberLiteral) : Sorted (.number n)
  | str (s : Option String) : Sorted (.str s)
  | arr {items : List JsonTree} : (∀ tree ∈ items, Sorted tree) → Sorted (.arr items)
  | obj {names : List String} {fields : List (Option String × JsonTree)} :
      fields.map Prod.fst = names.map some →
      names.Pairwise (fun a b => octetsOf a < octetsOf b) →
      (∀ field ∈ fields, Sorted field.2) → Sorted (.obj fields)

theorem Json.sorted_tree {v : Json} (proper : v.Proper) : v.tree.Sorted := by
  induction proper with
  | null => exact .null
  | bool b => exact .bool b
  | int _ _ => exact .number _
  | float x => exact .number _
  | str s => exact .str (some s)
  | arr _ ih =>
    rw [tree, itemTrees_eq]
    exact .arr (List.forall_mem_map.mpr ih)
  | @obj fields ordered _ ih =>
    rw [tree, fieldTrees_eq]
    have names : (fields.map fun field => (some field.1, field.2.tree)).map Prod.fst =
        (fields.map Prod.fst).map some := by
      rw [List.map_map, List.map_map]
      rfl
    exact .obj names (List.pairwise_map.mpr (ordered.imp octetsOf_lt)) (List.forall_mem_map.mpr ih)

namespace PayloadBuilder

/-! ### Calls of a payload builder -/

/-- One call of a payload builder. -/
inductive Call
  | field (name : String) (value : Json)
  | optional (name : String) (value : Option Json)

def Call.name : Call → String
  | .field name _ => name
  | .optional name _ => name

/-- The field that a call sets. -/
def Call.given? : Call → Option (String × Json)
  | .field name value => some (name, value)
  | .optional name value => value.map fun value => (name, value)

def call (builder : PayloadBuilder) : Call → PayloadBuilder
  | .field name value => builder.field name value
  | .optional name value => builder.optional name value

/-- What a new builder holds after some calls. -/
def after (calls : List Call) : PayloadBuilder := calls.foldl call empty

/-- The value that the calls give a name last. -/
def lastGiven? (calls : List Call) (name : String) : Option Json :=
  (calls.filterMap Call.given?).reverse.lookup name

variable {calls calls' : List Call}

theorem fields_after (calls : List Call) :
    (after calls).fields = Json.gather (calls.filterMap Call.given?) := by
  induction calls using List.reverseRecOn with
  | nil => rfl
  | append_singleton front last ih =>
    rw [after, List.foldl_append, List.foldl_cons, List.foldl_nil, ← after, List.filterMap_append]
    rcases last with ⟨name, value⟩ | ⟨name, _ | value⟩
    · exact (congrArg (Json.insertField name value) ih).trans
        (Json.gather_append_singleton _ (name, value)).symm
    · exact ih.trans (congrArg Json.gather (List.append_nil _).symm)
    · exact (congrArg (Json.insertField name value) ih).trans
        (Json.gather_append_singleton _ (name, value)).symm

theorem field?_build_after (calls : List Call) (name : String) :
    (after calls).build.field? name = lastGiven? calls name := by
  rw [build, Json.field?, fields_after, Json.lookup_gather, lastGiven?]

theorem build_after_congr (same : ∀ name, lastGiven? calls name = lastGiven? calls' name) :
    (after calls).build = (after calls').build := by
  rw [build, build, fields_after, fields_after]
  congr 1
  refine (Json.inOrder_gather _).ext (Json.inOrder_gather _) fun name => ?_
  rw [Json.lookup_gather, Json.lookup_gather]
  exact same name

theorem names_sublist (calls : List Call) :
    ((calls.filterMap Call.given?).map Prod.fst).Sublist (calls.map Call.name) := by
  induction calls with
  | nil => exact .slnil
  | cons call rest ih =>
    rcases call with ⟨name, value⟩ | ⟨name, _ | value⟩
    · exact ih.cons_cons name
    · exact ih.cons name
    · exact ih.cons_cons name

theorem lastGiven?_perm (perm : calls.Perm calls') (distinct : (calls.map Call.name).Nodup)
    (name : String) : lastGiven? calls name = lastGiven? calls' name := by
  have given := perm.filterMap Call.given?
  have reversed := (List.reverse_perm _).trans (given.trans (List.reverse_perm _).symm)
  have names := (names_sublist calls).nodup distinct
  exact Json.lookup_perm reversed (((List.reverse_perm _).map Prod.fst).nodup_iff.mpr names) name

theorem build_after_proper
    (given : ∀ call ∈ calls, ∀ field ∈ call.given?, Json.Proper field.2) :
    (after calls).build.Proper := by
  rw [build, fields_after]
  refine .obj (Json.inOrder_gather _) fun field member => ?_
  obtain ⟨call, made, isGiven⟩ := List.mem_filterMap.mp (Json.mem_gather member)
  exact given call made field isGiven

end PayloadBuilder

/-! ### The body as a canonical form -/

/-- A value with the reserved name first in an object has a text of its own, but that text is not
read back: it would stand for an embedded text. -/
theorem reserved_name_not_read_back :
    ∃ v : Json, v.Proper ∧ v.FloatFree ∧ v.nesting < JsonTree.depthLimit ∧
      Json.parse? "\x7b\"a\":1,\"$serde_json::private::RawValue\":\"[1]\"\x7d" = some v ∧
      encodeBody v = "\x7b\"$serde_json::private::RawValue\":\"[1]\",\"a\":1\x7d" ∧
      Json.parse? (encodeBody v) = none := by
  have exact : ∀ fields : List (String × Json), (∀ field ∈ fields,
      field = ("a", .int 1) ∨ field = (JsonTree.embeddedName, .str "[1]")) →
        (Json.obj fields).FloatFree := by
    refine fun fields all => .obj fun field member => ?_
    rcases all field member with rfl | rfl
    · exact .int 1
    · exact .str "[1]"
  have given : (Json.obj [("a", .int 1), (JsonTree.embeddedName, .str "[1]")]).FloatFree :=
    exact _ (by simp)
  have held : (Json.obj [(JsonTree.embeddedName, .str "[1]"), ("a", .int 1)]).FloatFree :=
    exact _ (by simp)
  have read := Json.parse?_compact given
  refine ⟨_, Json.parse?_proper read, held, by decide, read, by rfl, ?_⟩
  exact (Json.parse?_compact held).trans rfl

/-- The body of a value without floating-point numbers is read back exactly when the value is not
too deep and none of its objects has the reserved name first; different values have different
bodies; the names in a body grow at every level and no blank stands outside a text. A payload that
is built depends on what each name is given last, so the order of calls on different names changes
neither the body nor its signature. -/
theorem encodeBody_canonical :
    (∀ v : Json, v.Proper → v.FloatFree →
      (Json.parse? (encodeBody v) = some v ↔ v.nesting < 128 ∧ ¬v.Embeds)) ∧
    (∀ v w : Json, v.FloatFree → w.FloatFree → encodeBody v = encodeBody w → v = w) ∧
    (∀ v : Json, v.Proper → v.FloatFree →
      (∃ tree, JsonTree.ofText? (encodeBody v) = some tree ∧ tree.Sorted) ∧
      hasBlank .outside (encodeBody v).toList = false) ∧
    (∀ calls : List PayloadBuilder.Call,
      (∀ name, (PayloadBuilder.after calls).build.field? name =
        PayloadBuilder.lastGiven? calls name) ∧
      ((∀ call ∈ calls, ∀ field ∈ call.given?, Json.Proper field.2) →
        (PayloadBuilder.after calls).build.Proper)) ∧
    (∀ calls calls' : List PayloadBuilder.Call,
      (∀ name, PayloadBuilder.lastGiven? calls name = PayloadBuilder.lastGiven? calls' name) →
      (PayloadBuilder.after calls).build = (PayloadBuilder.after calls').build) ∧
    (∀ (calls calls' : List PayloadBuilder.Call) (secret : String), calls.Perm calls' →
      (calls.map PayloadBuilder.Call.name).Nodup →
      let body := encodeBody (PayloadBuilder.after calls).build
      let body' := encodeBody (PayloadBuilder.after calls').build
      body = body' ∧ signature secret (octetsOf body) = signature secret (octetsOf body')) := by
  refine ⟨fun v proper exact => Json.parse?_compact_iff proper exact,
    fun v w exact exact' => encodeBody_injective exact exact',
    fun v proper exact => ⟨?_, Json.hasBlank_compact exact⟩,
    fun calls => ⟨PayloadBuilder.field?_build_after calls, PayloadBuilder.build_after_proper⟩,
    fun calls calls' => PayloadBuilder.build_after_congr,
    fun calls calls' secret perm distinct => ?_⟩
  · exact ⟨v.tree, JsonTree.ofText?_compact exact, Json.sorted_tree proper⟩
  · have built : (PayloadBuilder.after calls).build = (PayloadBuilder.after calls').build :=
      PayloadBuilder.build_after_congr (PayloadBuilder.lastGiven?_perm perm distinct)
    dsimp only
    rw [built]
    exact ⟨rfl, rfl⟩

theorem encodeBody_canonical_extremes :
    ∃ v : Json,
      v = .obj [("k\"", .arr [.int (-0x8000000000000000), .int 0xffffffffffffffff]),
        ("é", .obj [("\u0000", .str "\\"), ("a", .null)])] ∧
      v.Proper ∧ v.FloatFree ∧ v.nesting < 128 ∧ ¬v.Embeds ∧
      Json.parse? (encodeBody v) = some v ∧ hasBlank .outside (encodeBody v).toList = false ∧
      ∃ calls : List PayloadBuilder.Call,
        calls = [.field "b" v, .optional "a" (some .null), .optional "c" none] ∧
        (calls.map PayloadBuilder.Call.name).Nodup ∧
        encodeBody (PayloadBuilder.after calls).build =
          encodeBody (PayloadBuilder.after calls.reverse).build := by
  obtain ⟨roundTrip, _, form, _, _, reorder⟩ := encodeBody_canonical
  have proper : Json.Proper (.obj [
      ("k\"", .arr [.int (-0x8000000000000000), .int 0xffffffffffffffff]),
      ("é", .obj [("\u0000", .str "\\"), ("a", .null)])]) := by
    have ints : Json.Proper (.arr [.int (-0x8000000000000000), .int 0xffffffffffffffff]) :=
      .arr (by simp only [List.forall_mem_cons]; exact ⟨.int (by omega) (by omega),
        .int (by omega) (by omega), nofun⟩)
    have inner : Json.Proper (.obj [("\u0000", .str "\\"), ("a", .null)]) :=
      .obj (by decide) (by simp only [List.forall_mem_cons]; exact ⟨.str _, .null, nofun⟩)
    exact .obj (by decide) (by simp only [List.forall_mem_cons]; exact ⟨ints, inner, nofun⟩)
  have exact : Json.FloatFree (.obj [
      ("k\"", .arr [.int (-0x8000000000000000), .int 0xffffffffffffffff]),
      ("é", .obj [("\u0000", .str "\\"), ("a", .null)])]) := by
    refine .obj ?_
    simp only [List.forall_mem_cons]
    refine ⟨.arr ?_, .obj ?_, nofun⟩
    · simp only [List.forall_mem_cons]
      exact ⟨.int _, .int _, nofun⟩
    · simp only [List.forall_mem_cons]
      exact ⟨.str _, .null, nofun⟩
  have plain : ¬Json.Embeds (.obj [
      ("k\"", .arr [.int (-0x8000000000000000), .int 0xffffffffffffffff]),
      ("é", .obj [("\u0000", .str "\\"), ("a", .null)])]) := by
    refine Json.not_embeds_obj_iff.mpr ⟨rfl, ?_⟩
    simp only [List.forall_mem_cons, Json.not_embeds_arr_iff, Json.not_embeds_obj_iff]
    refine ⟨by simp, ⟨rfl, by simp⟩, nofun⟩
  refine ⟨_, rfl, proper, exact, by decide, plain, ?_, (form _ proper exact).2, _, rfl,
    by simp only [List.map]; decide, ?_⟩
  · exact (roundTrip _ proper exact).mpr ⟨by decide, plain⟩
  · exact (reorder _ _ "" (List.reverse_perm _).symm (by simp only [List.map]; decide)).1

end OutboxRelay
