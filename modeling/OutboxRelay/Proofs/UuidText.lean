import OutboxRelay.Proofs.DigitText
import OutboxRelay.Uuid

namespace OutboxRelay.Uuid

/-- The hyphens can be taken out again. -/
theorem filter_hyphenate {digits : List Char} (plain : '-' ∉ digits) :
    (hyphenate digits).filter (· ≠ '-') = digits := by
  have kept : ∀ part : List Char, part ⊆ digits → part.filter (· ≠ '-') = part :=
    fun part within => List.filter_eq_self.mpr fun c member =>
      decide_eq_true fun hyphen => plain (hyphen ▸ within member)
  have groups : digits = digits.take 8 ++ ((digits.drop 8).take 4 ++ ((digits.drop 12).take 4 ++
      ((digits.drop 16).take 4 ++ digits.drop 20))) := by
    rw [← List.drop_drop (i := 4) (j := 16), List.take_append_drop,
      ← List.drop_drop (i := 4) (j := 12), List.take_append_drop,
      ← List.drop_drop (i := 4) (j := 8), List.take_append_drop, List.take_append_drop]
  rw [hyphenate, List.filter_append, kept _ (List.take_subset _ _)]
  simp only [List.filter_cons, List.filter_append]
  rw [kept _ (List.Subset.trans (List.take_subset _ _) (List.drop_subset _ _)),
    kept _ (List.Subset.trans (List.take_subset _ _) (List.drop_subset _ _)),
    kept _ (List.Subset.trans (List.take_subset _ _) (List.drop_subset _ _)),
    kept _ (List.drop_subset _ _)]
  exact groups.symm

theorem text_injective {a b : Uuid} (same : a.text = b.text) : a = b := by
  have chars : a.chars = b.chars := by
    rw [← String.toList_ofList (l := a.chars), ← String.toList_ofList (l := b.chars)]
    exact congrArg String.toList same
  have digits := congrArg (List.filter (· ≠ '-')) chars
  rw [Uuid.chars, Uuid.chars, filter_hyphenate (hyphen_not_mem_fixedHex _ _),
    filter_hyphenate (hyphen_not_mem_fixedHex _ _)] at digits
  have numbers := fixedHex_injective digits
  have whole : ∀ id : Uuid, id.bits.toNat % 16 ^ 32 = id.bits.toNat :=
    fun id => Nat.mod_eq_of_lt id.bits.isLt
  rw [whole, whole] at numbers
  cases a
  cases b
  exact congrArg Uuid.mk (BitVec.eq_of_toNat_eq numbers)

theorem length_text (id : Uuid) : id.text.toList.length = 36 := by
  rw [text, String.toList_ofList, chars, hyphenate]
  simp only [List.length_append, List.length_cons, List.length_take, List.length_drop,
    length_fixedHex]
  decide

/-- An identifier is read back from its text. -/
theorem ofText?_text (id : Uuid) : ofText? id.text = some id := by
  have length := length_text id
  have digits : id.chars.filter (· ≠ '-') = fixedHex 32 id.bits.toNat :=
    filter_hyphenate (hyphen_not_mem_fixedHex _ _)
  rw [text, String.toList_ofList] at length
  rw [ofText?, text, String.toList_ofList, if_neg (by omega), if_neg (by omega), ofDigits?,
    if_pos length, digits, if_pos ⟨length_fixedHex _ _, .inr rfl⟩,
    hexadecimal?_fixedHex id.bits.isLt, Option.map_some, ofNat, BitVec.ofNat_toNat,
    BitVec.setWidth_eq]

end OutboxRelay.Uuid
