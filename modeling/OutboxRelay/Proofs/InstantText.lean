import Mathlib.Data.List.Induction
import OutboxRelay.Instant.Rfc3339
import OutboxRelay.Proofs.Calendar
import OutboxRelay.Proofs.DigitText

namespace OutboxRelay.Instant

/-- A time that a text can stand for: in range, and a leap second only after second 59. -/
structure Sound (t : Instant) : Prop where
  inRange : t.inRange = true
  nanos : t.nanos < 2 * nanosPerSecond
  leap : nanosPerSecond ≤ t.nanos → t.secs % 60 = 59

/-! ### Numbers and marks -/

theorem isBlank_of_isDigit {c : Char} (digit : c.isDigit = true) : isBlank c = false := by
  rw [Char.isDigit_iff_toNat] at digit
  have range : 48 ≤ c.toNat ∧ c.toNat ≤ 57 := digit
  simp only [isBlank, Bool.or_eq_false_iff, Bool.and_eq_false_iff, beq_eq_false_iff_ne,
    decide_eq_false_iff_not]
  omega

theorem skipBlanks_cons {c : Char} (rest : List Char) (visible : isBlank c = false) :
    skipBlanks (c :: rest) = c :: rest :=
  List.dropWhile_cons_of_neg (by rw [visible]; decide)

/-- Blanks are not skipped where digits begin. -/
theorem skipBlanks_digits {digits : List Char} (all : ∀ c ∈ digits, c.isDigit = true)
    (some : digits ≠ []) (tail : List Char) : skipBlanks (digits ++ tail) = digits ++ tail := by
  cases digits with
  | nil => exact absurd rfl some
  | cons c rest => exact skipBlanks_cons _ (isBlank_of_isDigit (all c List.mem_cons_self))

/-- A number ends where its width does or where the digits do. -/
theorem readNumber?_digits {width : Nat} {digits tail : List Char}
    (all : ∀ c ∈ digits, c.isDigit = true) (some : digits ≠ []) (short : digits.length ≤ width)
    (ends : digits.length = width ∨ ∀ c ∈ tail.head?, c.isDigit = false) :
    readNumber? width (digits ++ tail) = .some (Nat.ofDigitChars 10 digits 0, tail) := by
  have read : ((digits ++ tail).take width).takeWhile Char.isDigit = digits := by
    rw [List.take_append, List.take_of_length_le short]
    refine takeWhile_append_of_stop all fun c isHead => ?_
    rcases ends with full | stop
    · rw [full, Nat.sub_self, List.take_zero] at isHead
      cases isHead
    · refine stop c ?_
      cases tail with
      | nil => rw [List.take_nil] at isHead; exact isHead
      | cons d rest =>
        cases left : width - digits.length with
        | zero => rw [left, List.take_zero] at isHead; cases isHead
        | succ n => rw [left, List.take_succ_cons] at isHead; exact isHead
  unfold readNumber?
  rw [read, if_neg (by simpa using some), List.drop_left]

theorem readField?_fixedDigits {n : Nat} (small : n < 100) (tail : List Char) :
    readField? (fixedDigits 2 n ++ tail) = some (n, tail) := by
  have some : fixedDigits 2 n ≠ [] := by
    intro none
    have length := length_fixedDigits 2 n
    rw [none] at length
    cases length
  have all : ∀ c ∈ fixedDigits 2 n, c.isDigit = true := fun c => isDigit_of_mem_fixedDigits
  rw [readField?, skipBlanks_digits all some,
    readNumber?_digits all some (by simp) (.inl (length_fixedDigits 2 n)),
    ofDigitChars_fixedDigits (by omega)]

theorem readMark?_cons {mark : Char} (visible : isBlank mark = false) (tail : List Char) :
    readMark? mark (mark :: tail) = some tail := by
  rw [readMark?, skipBlanks_cons tail visible]
  exact if_pos rfl

theorem readYear?_yearText (year : Int) (tail : List Char) :
    readYear? (yearText year ++ '-' :: tail) = some (year, '-' :: tail) := by
  have all : ∀ n, ∀ c ∈ padDigits 4 n, c.isDigit = true := fun n c => isDigit_of_mem_padDigits
  have stop : ∀ c ∈ ('-' :: tail).head?, c.isDigit = false := by
    rintro c isHead
    cases isHead
    decide
  have signed : ∀ n, readNumber? (padDigits 4 n ++ '-' :: tail).length
      (padDigits 4 n ++ '-' :: tail) = some (n, '-' :: tail) := by
    intro n
    rw [readNumber?_digits (all n) (padDigits_ne_nil 4 n) (by simp) (.inr stop),
      ofDigitChars_padDigits]
  unfold yearText
  split_ifs with plain negative
  · have width : (padDigits 4 year.toNat).length = 4 := length_padDigits (by decide) (by omega)
    have read : readNumber? 4 (padDigits 4 year.toNat ++ '-' :: tail) =
        some (year.toNat, '-' :: tail) := by
      rw [readNumber?_digits (all _) (padDigits_ne_nil 4 _) (by omega) (.inl width),
        ofDigitChars_padDigits]
    rw [readYear?, skipBlanks_digits (all _) (padDigits_ne_nil 4 _)]
    cases digits : padDigits 4 year.toNat with
    | nil => exact absurd digits (padDigits_ne_nil 4 _)
    | cons c rest =>
      have digit : c.isDigit = true := all year.toNat c (digits ▸ List.mem_cons_self)
      rw [digits] at read
      rw [List.cons_append] at read ⊢
      split <;> rename_i same
      · rw [(List.cons.inj same).1] at digit
        exact absurd digit (by decide)
      · rw [(List.cons.inj same).1] at digit
        exact absurd digit (by decide)
      · rw [read, Option.map_some]
        dsimp only
        rw [Int.toNat_of_nonneg plain.1]
  · rw [readYear?, List.cons_append, skipBlanks_cons _ (by decide)]
    change (readNumber? _ (padDigits 4 year.natAbs ++ '-' :: tail)).map _ = _
    rw [signed, Option.map_some]
    dsimp only
    congr 2
    omega
  · rw [readYear?, List.cons_append, skipBlanks_cons _ (by decide)]
    change (readNumber? _ (padDigits 4 year.natAbs ++ '-' :: tail)).map _ = _
    rw [signed, Option.map_some]
    dsimp only
    congr 2
    omega

/-! ### Fractions and offsets -/

theorem readFraction?_digits {width n : Nat} (some : 0 < width) (short : width ≤ 9)
    (small : n < 10 ^ width) :
    readFraction? ('.' :: fixedDigits width n ++ ['Z']) = .some (n * 10 ^ (9 - width), ['Z']) := by
  have all : ∀ c ∈ fixedDigits width n, c.isDigit = true := fun c => isDigit_of_mem_fixedDigits
  have stop : ∀ c ∈ ['Z'].head?, c.isDigit = false := by
    rintro c isHead
    cases isHead
    decide
  have length := length_fixedDigits width n
  rw [List.cons_append, readFraction?]
  rw [takeWhile_append_of_stop all stop, dropWhile_append_of_stop all stop,
    List.take_of_length_le (by omega), length, ofDigitChars_fixedDigits small, if_neg]
  · rfl
  · rw [List.isEmpty_iff]
    intro none
    rw [none, List.length_nil] at length
    omega

theorem readFraction?_fractionText {n : Nat} (small : n < nanosPerSecond) :
    readFraction? (fractionText n ++ ['Z']) = some (n, ['Z']) := by
  unfold nanosPerSecond at small
  unfold fractionText
  split_ifs with none milli micro
  · rw [none]
    rfl
  · rw [readFraction?_digits (by decide) (by decide) (by omega)]
    congr 2
    omega
  · rw [readFraction?_digits (by decide) (by decide) (by omega)]
    congr 2
    omega
  · rw [readFraction?_digits (by decide) (by decide) (by omega)]
    congr 2
    omega

/-! ### The whole text -/

variable {t : Instant}

/-- The parts of a time put together again. -/
theorem assemble?_parts (sound : t.Sound) :
    let second := (t.secs % 86400).toNat
    assemble? (CivilDay.ofDays (t.secs / 86400)) (second / 3600) (second / 60 % 60)
      (second % 60 + t.nanos / nanosPerSecond) (t.nanos % nanosPerSecond) 0 = some t := by
  obtain ⟨inRange, nanos, leap⟩ := sound
  unfold nanosPerSecond at *
  intro second
  have small : second < 86400 := by omega
  have leaps : (second % 60 + t.nanos / 1000000000) / 60 = t.nanos / 1000000000 := by omega
  have secs : t.secs / 86400 * 86400 + (second / 3600 : Nat) * 3600 + (second / 60 % 60 : Nat) * 60 +
      (second % 60 + t.nanos / 1000000000 - t.nanos / 1000000000 : Nat) = t.secs := by omega
  have nanos : t.nanos % 1000000000 + t.nanos / 1000000000 * 1000000000 = t.nanos := by omega
  unfold assemble? nanosPerSecond
  rw [if_pos ⟨CivilDay.isValid_ofDays _, by omega, by omega, by omega⟩, CivilDay.toDays_ofDays]
  simp only [leaps, secs, nanos, Int.sub_zero, inRange, and_self, if_true]

theorem ofText?_text (sound : t.Sound) : ofText? t.text = some t := by
  obtain ⟨month, day⟩ := CivilDay.two_digits (CivilDay.isValid_ofDays (t.secs / 86400))
  have parts := assemble?_parts sound
  have nanos := sound.nanos
  unfold nanosPerSecond at nanos
  have fraction : t.nanos % nanosPerSecond < nanosPerSecond := Nat.mod_lt _ (by decide)
  have leap : t.nanos / nanosPerSecond < 2 := by
    unfold nanosPerSecond
    omega
  have daytime : (t.secs % 86400).toNat < 86400 := by omega
  have hyphen : isBlank '-' = false := by decide
  have colon : isBlank ':' = false := by decide
  rw [ofText?, text, String.toList_ofList]
  unfold ofChars? chars
  refine Option.bind_eq_some_iff.mpr ⟨_, readYear?_yearText _ _, ?_⟩
  refine Option.bind_eq_some_iff.mpr ⟨_, readMark?_cons hyphen _, ?_⟩
  refine Option.bind_eq_some_iff.mpr ⟨_, readField?_fixedDigits month _, ?_⟩
  refine Option.bind_eq_some_iff.mpr ⟨_, readMark?_cons hyphen _, ?_⟩
  refine Option.bind_eq_some_iff.mpr ⟨_, readField?_fixedDigits day _, ?_⟩
  refine Option.bind_eq_some_iff.mpr ⟨_, readField?_fixedDigits (by omega) _, ?_⟩
  refine Option.bind_eq_some_iff.mpr ⟨_, readMark?_cons colon _, ?_⟩
  refine Option.bind_eq_some_iff.mpr ⟨_, readField?_fixedDigits (by omega) _, ?_⟩
  refine Option.bind_eq_some_iff.mpr ⟨_, readMark?_cons colon _, ?_⟩
  refine Option.bind_eq_some_iff.mpr ⟨_, readField?_fixedDigits (by omega) _, ?_⟩
  refine Option.bind_eq_some_iff.mpr ⟨_, readFraction?_fractionText fraction, ?_⟩
  refine Option.bind_eq_some_iff.mpr ⟨(0, []), by decide, ?_⟩
  exact parts

/-! ### What a text can stand for -/

theorem ofDigitChars_lt {digits : List Char} (all : ∀ c ∈ digits, c.isDigit = true) :
    Nat.ofDigitChars 10 digits 0 < 10 ^ digits.length := by
  induction digits using List.reverseRecOn with
  | nil => decide
  | append_singleton front last ih =>
    have before := ih fun c member => all c (List.mem_append_left _ member)
    have digit := all last (List.mem_append_right _ (List.mem_singleton_self last))
    rw [Char.isDigit_iff_toNat] at digit
    have range : 48 ≤ last.toNat ∧ last.toNat ≤ 57 := digit
    rw [Nat.ofDigitChars_append, List.length_append, List.length_singleton, Nat.pow_succ]
    have step : Nat.ofDigitChars 10 [last] (Nat.ofDigitChars 10 front 0) =
        10 * Nat.ofDigitChars 10 front 0 + (last.toNat - 48) := by
      rw [Nat.ofDigitChars_cons, Nat.ofDigitChars_nil]
      rfl
    omega

/-- A fraction of few digits is less than one in nanoseconds too. -/
theorem scaled_lt {n width : Nat} (small : n < 10 ^ width) (short : width ≤ 9) :
    n * 10 ^ (9 - width) < nanosPerSecond := by
  have scaled := Nat.mul_lt_mul_of_pos_right small (Nat.pow_pos (n := 9 - width) (by decide : 0 < 10))
  rw [← Nat.pow_add, Nat.add_sub_cancel' short] at scaled
  exact scaled

theorem readFraction?_lt {cs rest : List Char} {n : Nat}
    (read : readFraction? cs = some (n, rest)) : n < nanosPerSecond := by
  unfold readFraction? at read
  split at read
  · dsimp only at read
    split_ifs at read
    rename_i rest' _
    injection read with read
    injection read with value _
    have all : ∀ c ∈ (rest'.takeWhile Char.isDigit).take 9, c.isDigit = true :=
      fun c member => List.all_eq_true.mp List.all_takeWhile c (List.mem_of_mem_take member)
    have small := ofDigitChars_lt all
    have short := List.length_take_le 9 (rest'.takeWhile Char.isDigit)
    rw [← value]
    exact scaled_lt small short
  · cases read
    decide

theorem readOffsetSize?_minutes {cs rest : List Char} {n : Nat}
    (read : readOffsetSize? cs = some (n, rest)) : n % 60 = 0 := by
  unfold readOffsetSize? at read
  obtain ⟨⟨hours, cs⟩, _, read⟩ := Option.bind_eq_some_iff.mp read
  obtain ⟨⟨minutes, cs⟩, _, read⟩ := Option.bind_eq_some_iff.mp read
  dsimp only at read
  split_ifs at read
  · cases read
  · cases read
    omega

/-- Offsets are whole minutes. -/
theorem readOffset?_minutes {cs rest : List Char} {offset : Int}
    (read : readOffset? cs = some (offset, rest)) : offset % 60 = 0 := by
  unfold readOffset? at read
  split at read
  · obtain ⟨⟨n, rest⟩, size, same⟩ := Option.map_eq_some_iff.mp read
    have minutes := readOffsetSize?_minutes size
    cases same
    omega
  · split_ifs at read
    · obtain ⟨⟨n, rest⟩, size, same⟩ := Option.map_eq_some_iff.mp read
      have minutes := readOffsetSize?_minutes size
      cases same
      omega
    · cases read
      rfl
    · cases read
      rfl
  · cases read

theorem assemble?_sound {day : CivilDay} {hour minute second nanos : Nat} {offset : Int}
    (small : nanos < nanosPerSecond) (minutes : offset % 60 = 0)
    (made : assemble? day hour minute second nanos offset = some t) : t.Sound := by
  unfold assemble? at made
  split at made
  · rename_i fields
    obtain ⟨_, _, _, _⟩ := fields
    dsimp only at made
    split at made
    · rename_i range
      cases made
      refine ⟨range.2, ?_, ?_⟩
      · dsimp only
        have leap : second / 60 ≤ 1 := by omega
        unfold nanosPerSecond at *
        omega
      · dsimp only
        intro inLeap
        have leap : second / 60 = 1 := by
          unfold nanosPerSecond at *
          omega
        have last : second - second / 60 = 59 := by omega
        rw [last]
        omega
    · cases made
  · cases made

theorem sound_of_ofText? {s : String} (read : ofText? s = some t) : t.Sound := by
  unfold ofText? ofChars? at read
  obtain ⟨⟨year, cs⟩, _, read⟩ := Option.bind_eq_some_iff.mp read
  obtain ⟨cs, _, read⟩ := Option.bind_eq_some_iff.mp read
  obtain ⟨⟨month, cs⟩, _, read⟩ := Option.bind_eq_some_iff.mp read
  obtain ⟨cs, _, read⟩ := Option.bind_eq_some_iff.mp read
  obtain ⟨⟨day, cs⟩, _, read⟩ := Option.bind_eq_some_iff.mp read
  cases cs with
  | nil => cases read
  | cons c rest =>
    dsimp only at read
    split_ifs at read
    · obtain ⟨cs, _, read⟩ := Option.bind_eq_some_iff.mp read
      obtain ⟨⟨hour, cs⟩, _, read⟩ := Option.bind_eq_some_iff.mp read
      obtain ⟨cs, _, read⟩ := Option.bind_eq_some_iff.mp read
      obtain ⟨⟨minute, cs⟩, _, read⟩ := Option.bind_eq_some_iff.mp read
      obtain ⟨cs, _, read⟩ := Option.bind_eq_some_iff.mp read
      obtain ⟨⟨second, cs⟩, _, read⟩ := Option.bind_eq_some_iff.mp read
      obtain ⟨⟨nanos, cs⟩, fraction, read⟩ := Option.bind_eq_some_iff.mp read
      obtain ⟨⟨offset, cs⟩, zone, read⟩ := Option.bind_eq_some_iff.mp read
      dsimp only at read
      split_ifs at read
      exact assemble?_sound (readFraction?_lt fraction) (readOffset?_minutes zone) read
    · cases read

end OutboxRelay.Instant
