import Mathlib.Algebra.Group.Nat.Defs
import OutboxRelay.Text.Digits

namespace OutboxRelay

section Scanning
variable {p : Char → Bool} {front rest : List Char}

/-- A scan goes exactly as far as its characters do. -/
theorem takeWhile_append_of_stop (all : ∀ c ∈ front, p c = true)
    (stop : ∀ c ∈ rest.head?, p c = false) : (front ++ rest).takeWhile p = front := by
  have none : rest.takeWhile p = [] := by
    cases rest with
    | nil => rfl
    | cons c rest => simp [stop c rfl]
  rw [List.takeWhile_append_of_pos all, none, List.append_nil]

theorem dropWhile_append_of_stop (all : ∀ c ∈ front, p c = true)
    (stop : ∀ c ∈ rest.head?, p c = false) : (front ++ rest).dropWhile p = rest := by
  have whole : rest.dropWhile p = rest := by
    cases rest with
    | nil => rfl
    | cons c rest => simp [stop c rfl]
  rw [List.dropWhile_append_of_pos all, whole]

end Scanning

/-! ### Decimal digits -/

theorem isDigit_of_mem_toDigits {n : Nat} {c : Char} (member : c ∈ Nat.toDigits 10 n) :
    c.isDigit = true :=
  Nat.isDigit_of_mem_toDigits (by decide) (by decide) member

theorem isDigit_digitChar {n : Nat} (small : n < 10) : (Nat.digitChar n).isDigit = true := by
  have all : ∀ a : Fin 10, (Nat.digitChar a).isDigit = true := by decide
  exact all ⟨n, small⟩

@[simp] theorem length_fixedDigits (width n : Nat) : (fixedDigits width n).length = width := by
  induction width generalizing n with
  | zero => rfl
  | succ width ih => rw [fixedDigits, List.length_append, ih, List.length_singleton]

theorem isDigit_of_mem_fixedDigits {width n : Nat} {c : Char} (member : c ∈ fixedDigits width n) :
    c.isDigit = true := by
  induction width generalizing n with
  | zero => exact absurd member List.not_mem_nil
  | succ width ih =>
    rw [fixedDigits, List.mem_append, List.mem_singleton] at member
    rcases member with front | rfl
    · exact ih front
    · exact isDigit_digitChar (Nat.mod_lt n (by decide))

/-- As many digits as a number has tell it. -/
theorem ofDigitChars_fixedDigits {width n : Nat} (small : n < 10 ^ width) :
    Nat.ofDigitChars 10 (fixedDigits width n) 0 = n := by
  induction width generalizing n with
  | zero =>
    have zero : n = 0 := by omega
    rw [zero]
    rfl
  | succ width ih =>
    have front : n / 10 < 10 ^ width := by
      rw [Nat.pow_succ] at small
      omega
    rw [fixedDigits, Nat.ofDigitChars_append, ih front,
      Nat.ofDigitChars_cons_digitChar_of_lt_ten (Nat.mod_lt n (by decide)), Nat.ofDigitChars_nil]
    omega

theorem isDigit_of_mem_padDigits {width n : Nat} {c : Char} (member : c ∈ padDigits width n) :
    c.isDigit = true := by
  rw [padDigits, List.mem_append] at member
  rcases member with zero | digit
  · rw [List.eq_of_mem_replicate zero]
    rfl
  · exact isDigit_of_mem_toDigits digit

/-- Zeros in front do not count. -/
theorem ofDigitChars_padDigits (width n : Nat) :
    Nat.ofDigitChars 10 (padDigits width n) 0 = n := by
  rw [padDigits, Nat.ofDigitChars_append, Nat.ofDigitChars_replicate_zero, Nat.mul_zero,
    Nat.ofDigitChars_ten_toDigits]

theorem padDigits_ne_nil (width n : Nat) : padDigits width n ≠ [] := by
  rw [padDigits]
  exact List.append_ne_nil_of_right_ne_nil _ Nat.toDigits_ne_nil

theorem length_padDigits {width n : Nat} (positive : 0 < width) (small : n < 10 ^ width) :
    (padDigits width n).length = width := by
  have short := (Nat.length_toDigits_le_iff (by decide) positive).mpr small
  rw [padDigits, List.length_append, List.length_replicate]
  omega

/-! ### Hexadecimal digits -/

@[simp] theorem length_fixedHex (width n : Nat) : (fixedHex width n).length = width := by
  induction width generalizing n with
  | zero => rfl
  | succ width ih => rw [fixedHex, List.length_append, ih, List.length_singleton]

theorem digitChar_injective {m n : Nat} (small : m < 16) (small' : n < 16)
    (same : Nat.digitChar m = Nat.digitChar n) : m = n := by
  have all : ∀ a b : Fin 16, Nat.digitChar a = Nat.digitChar b → a = b := by decide
  exact congrArg Fin.val (all ⟨m, small⟩ ⟨n, small'⟩ same)

theorem digitChar_ne_hyphen {n : Nat} (small : n < 16) : Nat.digitChar n ≠ '-' := by
  have all : ∀ a : Fin 16, Nat.digitChar a ≠ '-' := by decide
  exact all ⟨n, small⟩

/-- As many digits tell the number as long as it has no more. -/
theorem fixedHex_injective {width m n : Nat} (same : fixedHex width m = fixedHex width n) :
    m % 16 ^ width = n % 16 ^ width := by
  induction width generalizing m n with
  | zero => rw [Nat.pow_zero, Nat.mod_one, Nat.mod_one]
  | succ width ih =>
    obtain ⟨front, last⟩ := List.append_inj' same rfl
    have low := digitChar_injective (Nat.mod_lt m (by decide)) (Nat.mod_lt n (by decide))
      (List.singleton_inj.mp last)
    rw [Nat.pow_succ', Nat.mod_mul, Nat.mod_mul, ih front, low]

theorem hyphen_not_mem_fixedHex (width n : Nat) : '-' ∉ fixedHex width n := by
  induction width generalizing n with
  | zero => exact List.not_mem_nil
  | succ width ih =>
    rw [fixedHex, List.mem_append, List.mem_singleton, not_or]
    exact ⟨ih _, (digitChar_ne_hyphen (Nat.mod_lt n (by decide))).symm⟩

theorem hexValue?_digitChar {n : Nat} (small : n < 16) : hexValue? (Nat.digitChar n) = some n := by
  have all : ∀ a : Fin 16, hexValue? (Nat.digitChar a) = some a.val := by decide
  exact all ⟨n, small⟩

theorem hexadecimal?_append_digitChar {cs : List Char} {m n : Nat}
    (front : hexadecimal? cs = some m) (small : n < 16) :
    hexadecimal? (cs ++ [Nat.digitChar n]) = some (16 * m + n) := by
  rw [hexadecimal?, List.foldl_append, ← hexadecimal?, front, List.foldl_cons, List.foldl_nil,
    hexValue?_digitChar small]
  rfl

theorem hexadecimal?_fixedHex {width n : Nat} (small : n < 16 ^ width) :
    hexadecimal? (fixedHex width n) = some n := by
  induction width generalizing n with
  | zero =>
    have zero : n = 0 := by omega
    rw [zero]
    rfl
  | succ width ih =>
    have front : n / 16 < 16 ^ width := by
      rw [Nat.pow_succ] at small
      omega
    rw [fixedHex, hexadecimal?_append_digitChar (ih front) (Nat.mod_lt n (by decide))]
    congr 1
    omega

theorem hexValue?_of_mem_fixedHex {width n : Nat} {c : Char} (member : c ∈ fixedHex width n) :
    ∃ value, hexValue? c = some value := by
  induction width generalizing n with
  | zero => cases member
  | succ width ih =>
    rw [fixedHex, List.mem_append, List.mem_singleton] at member
    rcases member with front | rfl
    · exact ih front
    · exact ⟨n % 16, hexValue?_digitChar (Nat.mod_lt n (by decide))⟩

end OutboxRelay
