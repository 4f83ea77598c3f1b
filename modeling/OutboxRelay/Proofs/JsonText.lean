import Mathlib.Tactic.SplitIfs
import OutboxRelay.Json.Printer
import OutboxRelay.Json.Tree
import OutboxRelay.Proofs.DigitText

namespace OutboxRelay

/-! ### What a text of a value reads as -/

/-- The digits and the sign of an integer. -/
def NumberLiteral.ofInt (n : Int) : NumberLiteral :=
  ⟨decide (n < 0), Nat.toDigits 10 n.natAbs, none, none⟩

/-- The parts of the text of a floating-point number. -/
def Binary64.literal (x : Binary64) : NumberLiteral :=
  ((JsonTree.readNumber? x.text).map Prod.fst).getD ⟨x.negative, [], none, none⟩

namespace Json

mutual

/-- The tree of the text of a value. -/
def tree : Json → JsonTree
  | .null => .null
  | .bool b => .bool b
  | .int n => .number (.ofInt n)
  | .float x => .number x.literal
  | .str s => .str (some s)
  | .arr items => .arr (itemTrees items)
  | .obj fields => .obj (fieldTrees fields)

def itemTrees : List Json → List JsonTree
  | [] => []
  | v :: rest => v.tree :: itemTrees rest

def fieldTrees : List (String × Json) → List (Option String × JsonTree)
  | [] => []
  | (name, v) :: rest => (some name, v.tree) :: fieldTrees rest

end

/-- A value as it is held: integers have 64 bits, signed or unsigned, and the fields of an object
stand in the order of their names, each name once. -/
inductive Proper : Json → Prop
  | null : Proper .null
  | bool (b : Bool) : Proper (.bool b)
  | int {n : Int} : -0x8000000000000000 ≤ n → n < 0x10000000000000000 → Proper (.int n)
  | float (x : Binary64) : Proper (.float x)
  | str (s : String) : Proper (.str s)
  | arr {items : List Json} : (∀ v ∈ items, Proper v) → Proper (.arr items)
  | obj {fields : List (String × Json)} : fields.Pairwise (fun a b => a.1 < b.1) →
      (∀ field ∈ fields, Proper field.2) → Proper (.obj fields)

/-- A value without floating-point numbers. -/
inductive FloatFree : Json → Prop
  | null : FloatFree .null
  | bool (b : Bool) : FloatFree (.bool b)
  | int (n : Int) : FloatFree (.int n)
  | str (s : String) : FloatFree (.str s)
  | arr {items : List Json} : (∀ v ∈ items, FloatFree v) → FloatFree (.arr items)
  | obj {fields : List (String × Json)} : (∀ field ∈ fields, FloatFree field.2) →
      FloatFree (.obj fields)

end Json

namespace JsonTree

/-- What cannot go on with a number that ends before it. -/
def EndsNumber (tail : List Char) : Prop :=
  ∀ c ∈ tail.head?, c.isDigit = false ∧ c ≠ '.' ∧ c ≠ 'e' ∧ c ≠ 'E'

theorem endsNumber_nil : EndsNumber [] := nofun

theorem endsNumber_cons {c : Char} (tail : List Char) (digit : c.isDigit = false) (point : c ≠ '.')
    (lower : c ≠ 'e') (upper : c ≠ 'E') : EndsNumber (c :: tail) := by
  intro other isHead
  cases isHead
  exact ⟨digit, point, lower, upper⟩

theorem skipSpace_cons {c : Char} (tail : List Char) (visible : isSpace c = false) :
    skipSpace (c :: tail) = c :: tail :=
  List.dropWhile_cons_of_neg (by rw [visible]; decide)

theorem isSpace_of_isDigit {c : Char} (digit : c.isDigit = true) : isSpace c = false := by
  simp only [isSpace, Bool.or_eq_false_iff, beq_eq_false_iff_ne]
  refine ⟨⟨⟨?_, ?_⟩, ?_⟩, ?_⟩ <;> (rintro rfl; revert digit; decide)

/-! ### Numbers -/

theorem readDigits?_toDigits (n : Nat) {tail : List Char} (ends : EndsNumber tail) :
    readDigits? (Nat.toDigits 10 n ++ tail) = some (Nat.toDigits 10 n, tail) := by
  have all : ∀ c ∈ Nat.toDigits 10 n, c.isDigit = true := fun c => isDigit_of_mem_toDigits
  have stop : ∀ c ∈ tail.head?, c.isDigit = false := fun c isHead => (ends c isHead).1
  rw [readDigits?, takeWhile_append_of_stop all stop, dropWhile_append_of_stop all stop]
  cases digits : Nat.toDigits 10 n with
  | nil => exact absurd digits Nat.toDigits_ne_nil
  | cons c rest => rfl

/-- Only zero itself begins with a zero. -/
theorem toDigits_ne_zero_cons (n : Nat) (c : Char) (rest : List Char) :
    Nat.toDigits 10 n ≠ '0' :: c :: rest := by
  induction n using Nat.strongRecOn generalizing c rest with
  | ind n ih =>
    intro digits
    by_cases small : n < 10
    · rw [Nat.toDigits_of_lt_base small] at digits
      injection digits with _ more
      cases more
    · rw [Nat.toDigits_of_base_le (by decide) (by omega)] at digits
      cases front : Nat.toDigits 10 (n / 10) with
      | nil => exact Nat.toDigits_ne_nil front
      | cons d more =>
        rw [front, List.cons_append] at digits
        injection digits with isZero _
        subst isZero
        cases more with
        | cons e more => exact ih (n / 10) (by omega) e more front
        | nil =>
          -- one digit in front, a zero: then there was none
          have value := Nat.ofDigitChars_ten_toDigits (n := n / 10)
          rw [front] at value
          have zero : n / 10 = 0 := value.symm
          omega

theorem readWhole?_toDigits (n : Nat) {tail : List Char} (ends : EndsNumber tail) :
    readWhole? (Nat.toDigits 10 n ++ tail) = some (Nat.toDigits 10 n, tail) := by
  rw [readWhole?, readDigits?_toDigits n ends]
  split
  · rename_i c rest _ same
    injection same with same
    injection same with digits _
    exact absurd digits (toDigits_ne_zero_cons n c rest)
  · rfl

theorem readFraction?_of_ends {tail : List Char} (ends : EndsNumber tail) :
    readFraction? tail = some (none, tail) := by
  unfold readFraction?
  split
  · exact absurd rfl (ends '.' rfl).2.1
  · rfl

theorem readExponent?_of_ends {tail : List Char} (ends : EndsNumber tail) :
    readExponent? tail = some (none, tail) := by
  unfold readExponent?
  split
  · rename_i c rest
    obtain ⟨_, _, lower, upper⟩ := ends c rfl
    rw [if_neg (by simp [lower, upper])]
  · rfl

theorem readNumber?_intChars (n : Int) {tail : List Char} (ends : EndsNumber tail) :
    readNumber? (Json.intChars n ++ tail) = some (.ofInt n, tail) := by
  cases n with
  | negSucc m =>
    rw [Json.intChars, List.cons_append]
    simp [readNumber?, readWhole?_toDigits (m + 1) ends, readFraction?_of_ends ends,
      readExponent?_of_ends ends, NumberLiteral.ofInt]
  | ofNat m =>
    have whole := readWhole?_toDigits m ends
    rw [Json.intChars]
    unfold readNumber?
    split
    rename_i negative digits signed
    split at signed
    · rename_i rest isText
      -- no digit is a sign
      have member : '-' ∈ Nat.toDigits 10 m := by
        cases digits : Nat.toDigits 10 m with
        | nil => exact absurd digits Nat.toDigits_ne_nil
        | cons c more =>
          rw [digits] at isText
          injection isText with sign _
          exact sign ▸ List.mem_cons_self
      exact absurd (isDigit_of_mem_toDigits member) (by decide)
    · cases signed
      simp [whole, readFraction?_of_ends ends, readExponent?_of_ends ends, NumberLiteral.ofInt]

/-! ### Texts -/

/-- A character is read back from what is written for it. -/
theorem readPoints?_escapeChar (c : Char) (tail : List Char) :
    readPoints? (Json.escapeChar c ++ tail) =
      (readPoints? tail).map fun (points, rest) => (c.toNat :: points, rest) := by
  have again : ∀ {n : Nat}, c.toNat = n → c = Char.ofNat n := by
    rintro n rfl
    exact (Char.ofNat_toNat c).symm
  have spelled : ∀ letter, letter ≠ 'u' → unescape? letter = some c →
      readPoints? (['\\', letter] ++ tail) =
        (readPoints? tail).map fun (points, rest) => (c.toNat :: points, rest) := by
    intro letter simple meaning
    rw [List.cons_append, List.singleton_append, readPoints?]
    · rw [meaning]
      cases readPoints? tail <;> rfl
    · exact fun _ _ _ _ _ same _ => simple same
  unfold Json.escapeChar
  split_ifs with quote backslash plain backspace tab newline feed carriage
  · exact spelled '"' (by decide) (by rw [quote]; decide)
  · exact spelled '\\' (by decide) (by rw [backslash]; decide)
  · rw [List.singleton_append, readPoints?]
    · have allowed : ¬(c.toNat < 0x20 ∨ c = '\\') := not_or.mpr ⟨by omega, backslash⟩
      rw [if_neg allowed]
      cases readPoints? tail <;> rfl
    · exact quote
    · exact fun _ _ _ _ _ same _ => backslash same
    · exact fun _ _ same _ => backslash same
  · exact spelled 'b' (by decide) (by rw [again backspace]; decide)
  · exact spelled 't' (by decide) (by rw [tab]; decide)
  · exact spelled 'n' (by decide) (by rw [newline]; decide)
  · exact spelled 'f' (by decide) (by rw [again feed]; decide)
  · exact spelled 'r' (by decide) (by rw [carriage]; decide)
  · have value : hexadecimal? (fixedHex 4 c.toNat) = some c.toNat :=
      hexadecimal?_fixedHex (by omega)
    simp only [fixedHex, List.nil_append, List.cons_append] at value ⊢
    rw [readPoints?, value]
    cases readPoints? tail <;> rfl

theorem readPoints?_quoted (cs tail : List Char) :
    readPoints? (cs.flatMap Json.escapeChar ++ '"' :: tail) = some (cs.map Char.toNat, tail) := by
  induction cs with
  | nil => rfl
  | cons c rest ih =>
    rw [List.flatMap_cons, List.append_assoc, readPoints?_escapeChar, ih]
    rfl

theorem toNat_not_surrogate (c : Char) : ¬(0xD800 ≤ c.toNat ∧ c.toNat < 0xE000) := by
  have valid : c.toNat < 0xD800 ∨ 0xDFFF < c.toNat ∧ c.toNat < 0x110000 := c.valid
  omega

/-- No character is half of a pair. -/
theorem joinPairs?_map_toNat (cs : List Char) : joinPairs? (cs.map Char.toNat) = some cs := by
  induction cs with
  | nil => rfl
  | cons c rest ih =>
    have whole := toNat_not_surrogate c
    cases rest with
    | nil => simp only [List.map_cons, List.map_nil, joinPairs?, if_neg whole, Char.ofNat_toNat]
    | cons next rest =>
      rw [List.map_cons] at ih
      simp only [List.map_cons, joinPairs?]
      rw [if_neg (by omega), if_neg (by omega), ih, Option.map_some, Char.ofNat_toNat]

theorem readText?_quoted (s : String) (tail : List Char) :
    readText? (s.toList.flatMap Json.escapeChar ++ '"' :: tail) = some (some s, tail) := by
  rw [readText?, readPoints?_quoted, Option.map_some]
  dsimp only
  rw [joinPairs?_map_toNat, Option.map_some, String.ofList_toList]

/-! ### Values -/

/-- What a value begins with is seen, and it does not end a list. -/
theorem chars_head {v : Json} (exact : v.FloatFree) :
    ∃ c rest, v.chars = c :: rest ∧ isSpace c = false ∧ c ≠ ']' := by
  cases exact with
  | null => exact ⟨'n', _, rfl, by decide, by decide⟩
  | bool b => cases b <;> exact ⟨_, _, rfl, by decide, by decide⟩
  | int n =>
    cases n with
    | negSucc m => exact ⟨'-', _, rfl, by decide, by decide⟩
    | ofNat m =>
      cases digits : Nat.toDigits 10 m with
      | nil => exact absurd digits Nat.toDigits_ne_nil
      | cons c rest =>
        have digit := isDigit_of_mem_toDigits (n := m) (digits ▸ List.mem_cons_self)
        refine ⟨c, rest, digits, isSpace_of_isDigit digit, ?_⟩
        rintro rfl
        exact absurd digit (by decide)
  | str s => exact ⟨'"', _, rfl, by decide, by decide⟩
  | @arr items _ => cases items <;> exact ⟨'[', _, rfl, by decide, by decide⟩
  | @obj fields _ =>
    rcases fields with _ | ⟨⟨name, v⟩, rest⟩ <;> exact ⟨'{', _, rfl, by decide, by decide⟩

/-- A value is read back from its text, whatever follows. -/
def ReadsBack (v : Json) : Prop :=
  ∀ fuel tail, EndsNumber tail → 2 * v.chars.length ≤ fuel →
    readValue? fuel (v.chars ++ tail) = some (v.tree, tail)

theorem endsNumber_itemChars (rest : List Json) (tail : List Char) :
    EndsNumber (Json.itemChars rest ++ tail) := by
  cases rest <;> exact endsNumber_cons _ (by decide) (by decide) (by decide) (by decide)

theorem endsNumber_fieldChars (rest : List (String × Json)) (tail : List Char) :
    EndsNumber (Json.fieldChars rest ++ tail) := by
  rcases rest with _ | ⟨⟨name, v⟩, rest⟩ <;>
    exact endsNumber_cons _ (by decide) (by decide) (by decide) (by decide)

theorem readItems?_chars {v : Json} {rest : List Json} (first : ReadsBack v)
    (others : ∀ w ∈ rest, ReadsBack w) (fuel : Nat) (tail : List Char)
    (enough : 2 * (v.chars ++ Json.itemChars rest).length ≤ fuel) :
    readItems? fuel (v.chars ++ Json.itemChars rest ++ tail) =
      some (v.tree :: Json.itemTrees rest, tail) := by
  induction rest generalizing v fuel with
  | nil =>
    rw [List.length_append, Json.itemChars, List.length_singleton] at enough
    obtain ⟨fuel, rfl⟩ : ∃ f, fuel = f + 1 := ⟨fuel - 1, by omega⟩
    rw [List.append_assoc, readItems?, first fuel _ (endsNumber_itemChars [] tail) (by omega)]
    rfl
  | cons w rest ih =>
    rw [List.length_append, Json.itemChars, List.length_cons] at enough
    obtain ⟨fuel, rfl⟩ : ∃ f, fuel = f + 1 := ⟨fuel - 1, by omega⟩
    have next := ih (others w List.mem_cons_self)
      (fun u member => others u (List.mem_cons_of_mem w member)) fuel (by omega)
    rw [List.append_assoc, readItems?, first fuel _ (endsNumber_itemChars _ tail) (by omega)]
    simp only [Json.itemChars, List.cons_append, skipSpace_cons _ (show isSpace ',' = false by decide)]
    rw [next]
    rfl

theorem readFields?_chars (name : String) {v : Json} {rest : List (String × Json)}
    (first : ReadsBack v) (others : ∀ field ∈ rest, ReadsBack field.2) (fuel : Nat)
    (tail : List Char)
    (enough : 2 * (Json.quoteChars name.toList ++
      ':' :: (v.chars ++ Json.fieldChars rest)).length ≤ fuel) :
    readFields? fuel (Json.quoteChars name.toList ++
        ':' :: (v.chars ++ Json.fieldChars rest) ++ tail) =
      some ((some name, v.tree) :: Json.fieldTrees rest, tail) := by
  induction rest generalizing name v fuel with
  | nil =>
    rw [Json.quoteChars, Json.fieldChars] at enough ⊢
    simp only [List.length_append, List.length_cons, List.length_nil] at enough
    obtain ⟨fuel, rfl⟩ : ∃ f, fuel = f + 1 := ⟨fuel - 1, by omega⟩
    have value := first fuel _ (endsNumber_fieldChars [] tail) (by omega)
    simp only [List.cons_append, List.append_assoc, List.nil_append, readFields?,
      skipSpace_cons _ (show isSpace '"' = false by decide), readText?_quoted,
      skipSpace_cons _ (show isSpace ':' = false by decide)]
    rw [Json.fieldChars, List.singleton_append] at value
    rw [value]
    rfl
  | cons field rest ih =>
    obtain ⟨other, w⟩ := field
    rw [Json.quoteChars, Json.fieldChars] at enough ⊢
    simp only [List.length_append, List.length_cons, List.length_nil] at enough
    obtain ⟨fuel, rfl⟩ : ∃ f, fuel = f + 1 := ⟨fuel - 1, by omega⟩
    have value := first fuel _ (endsNumber_fieldChars ((other, w) :: rest) tail) (by omega)
    have next := ih other (others _ List.mem_cons_self)
      (fun u member => others u (List.mem_cons_of_mem _ member)) fuel
      (by simp only [List.length_append, List.length_cons]; omega)
    rw [Json.fieldChars] at value
    simp only [List.cons_append, List.append_assoc, List.nil_append] at value next ⊢
    simp only [readFields?, skipSpace_cons _ (show isSpace '"' = false by decide),
      readText?_quoted, skipSpace_cons _ (show isSpace ':' = false by decide), value,
      skipSpace_cons _ (show isSpace ',' = false by decide), next]
    rfl

/-- What begins with a digit or a minus is a number. -/
theorem readValue?_of_number {c : Char} (number : c.isDigit = true ∨ c = '-') (rest : List Char)
    (fuel : Nat) : readValue? (fuel + 1) (c :: rest) =
      (readNumber? (c :: rest)).map fun (n, rest) => (.number n, rest) := by
  have different : ∀ d : Char, d.isDigit = false → d ≠ '-' → c ≠ d := by
    rintro d letter other rfl
    rcases number with digit | sign
    · exact Bool.false_ne_true (letter.symm.trans digit)
    · exact other sign
  have visible : isSpace c = false := by
    rcases number with digit | rfl
    · exact isSpace_of_isDigit digit
    · decide
  rw [readValue?, skipSpace_cons rest visible]
  split <;> rename_i text
  · exact absurd (List.cons.inj text).1 (different 'n' (by decide) (by decide))
  · exact absurd (List.cons.inj text).1 (different 't' (by decide) (by decide))
  · exact absurd (List.cons.inj text).1 (different 'f' (by decide) (by decide))
  · exact absurd (List.cons.inj text).1 (different '"' (by decide) (by decide))
  · exact absurd (List.cons.inj text).1 (different '[' (by decide) (by decide))
  · exact absurd (List.cons.inj text).1 (different '{' (by decide) (by decide))
  · rfl

theorem readsBack_int (n : Int) : ReadsBack (.int n) := by
  intro fuel tail ends enough
  have number : ∃ c rest, (Json.int n).chars = c :: rest ∧ (c.isDigit = true ∨ c = '-') := by
    cases n with
    | negSucc m => exact ⟨'-', _, rfl, .inr rfl⟩
    | ofNat m =>
      cases digits : Nat.toDigits 10 m with
      | nil => exact absurd digits Nat.toDigits_ne_nil
      | cons c rest =>
        exact ⟨c, rest, digits, .inl (isDigit_of_mem_toDigits (n := m) (digits ▸ List.mem_cons_self))⟩
  obtain ⟨c, rest, text, begins⟩ := number
  have read := readNumber?_intChars n ends
  rw [← Json.chars, text] at read
  rw [text] at enough ⊢
  obtain ⟨fuel, rfl⟩ : ∃ f, fuel = f + 1 := ⟨fuel - 1, by rw [List.length_cons] at enough; omega⟩
  rw [List.cons_append] at read ⊢
  rw [readValue?_of_number begins, read]
  rfl

theorem readsBack_str (s : String) : ReadsBack (.str s) := by
  intro fuel tail _ enough
  rw [Json.chars, Json.quoteChars] at enough ⊢
  obtain ⟨fuel, rfl⟩ : ∃ f, fuel = f + 1 := ⟨fuel - 1, by rw [List.length_cons] at enough; omega⟩
  simp only [List.cons_append, List.append_assoc, List.nil_append, readValue?,
    skipSpace_cons _ (show isSpace '"' = false by decide), readText?_quoted]
  rfl

theorem readValue?_arr (fuel : Nat) {c : Char} (rest : List Char) (visible : isSpace c = false)
    (inside : c ≠ ']') : readValue? (fuel + 1) ('[' :: c :: rest) =
      (readItems? fuel (c :: rest)).map fun (items, rest) => (.arr items, rest) := by
  rw [readValue?, skipSpace, List.dropWhile_cons_of_neg (by decide)]
  simp only
  rw [skipSpace_cons rest visible]
  split
  · rename_i isEnd
    exact absurd (List.cons.inj isEnd).1 inside
  · rfl

theorem readsBack_arr {items : List Json} (all : ∀ v ∈ items, ReadsBack v)
    (exact : ∀ v ∈ items, v.FloatFree) : ReadsBack (.arr items) := by
  intro fuel tail _ enough
  obtain ⟨fuel, rfl⟩ : ∃ f, fuel = f + 1 :=
    ⟨fuel - 1, by cases items <;> simp [Json.chars] at enough <;> omega⟩
  cases items with
  | nil => rfl
  | cons v rest =>
    rw [Json.chars, List.length_cons] at enough
    have list := readItems?_chars (all v List.mem_cons_self)
      (fun w member => all w (List.mem_cons_of_mem v member)) fuel tail (by omega)
    obtain ⟨c, more, text, visible, inside⟩ := chars_head (exact v List.mem_cons_self)
    rw [text] at list
    rw [Json.chars, text]
    simp only [List.cons_append] at list ⊢
    rw [readValue?_arr fuel _ visible inside, list]
    rfl

theorem readsBack_obj {fields : List (String × Json)} (all : ∀ field ∈ fields, ReadsBack field.2) :
    ReadsBack (.obj fields) := by
  intro fuel tail _ enough
  obtain ⟨fuel, rfl⟩ : ∃ f, fuel = f + 1 := ⟨fuel - 1, by
    rcases fields with _ | ⟨⟨name, v⟩, rest⟩ <;> simp [Json.chars] at enough <;> omega⟩
  cases fields with
  | nil => rfl
  | cons field rest =>
    obtain ⟨name, v⟩ := field
    rw [Json.chars, List.length_cons] at enough
    have first : ReadsBack v := all _ List.mem_cons_self
    have list := readFields?_chars name first
      (fun w member => all w (List.mem_cons_of_mem _ member)) fuel tail (by omega)
    rw [Json.chars, Json.quoteChars]
    rw [Json.quoteChars] at list
    simp only [List.cons_append] at list ⊢
    change (readFields? fuel _).map _ = _
    rw [list]
    rfl

/-- The text of a value reads as its tree, whatever follows. -/
theorem readsBack {v : Json} (exact : v.FloatFree) : ReadsBack v := by
  induction exact with
  | null =>
    rintro (_ | fuel) tail ends enough
    · simp [Json.chars] at enough
    · rfl
  | bool b =>
    rintro (_ | fuel) tail ends enough
    · cases b <;> simp [Json.chars] at enough
    · cases b <;> rfl
  | int n => exact readsBack_int n
  | str s => exact readsBack_str s
  | arr exact ih => exact readsBack_arr ih exact
  | obj _ ih => exact readsBack_obj ih

theorem ofText?_compact {v : Json} (exact : v.FloatFree) : ofText? v.compact = some v.tree := by
  have whole := readsBack exact (2 * v.chars.length + 2) [] endsNumber_nil (by omega)
  rw [List.append_nil] at whole
  rw [ofText?, Json.compact, String.toList_ofList, read?, whole]
  rfl

end JsonTree

end OutboxRelay
