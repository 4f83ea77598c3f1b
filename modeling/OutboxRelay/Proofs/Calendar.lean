import Mathlib.Tactic.IntervalCases
import Mathlib.Tactic.SplitIfs
import OutboxRelay.Instant.Calendar

namespace OutboxRelay.CivilDay

/-! ### The day of a cycle

A cycle of 400 years has four centuries, a century 25 blocks of four years. The last block of a
century has no leap day, except in the last century. -/

/-- Which day of which year of a cycle a day is, years counted from March. -/
structure Place (dayOfCycle century block year day : Int) : Prop where
  whole : dayOfCycle = 36524 * century + 1461 * block + 365 * year + day
  centuries : 0 ≤ century ∧ century < 4
  blocks : 0 ≤ block ∧ block < 25
  years : 0 ≤ year ∧ year < 4
  days : 0 ≤ day ∧ (day ≤ 364 ∨ day = 365 ∧ year = 3 ∧ (block < 24 ∨ century = 3))

theorem exists_place {dayOfCycle : Int} (low : 0 ≤ dayOfCycle) (high : dayOfCycle < 146097) :
    ∃ century block year day, Place dayOfCycle century block year day := by
  obtain ⟨century, isCentury⟩ : ∃ c, c = min (dayOfCycle / 36524) 3 := ⟨_, rfl⟩
  obtain ⟨block, isBlock⟩ : ∃ b, b = (dayOfCycle - 36524 * century) / 1461 := ⟨_, rfl⟩
  obtain ⟨year, isYear⟩ : ∃ y, y = min ((dayOfCycle - 36524 * century) % 1461 / 365) 3 := ⟨_, rfl⟩
  refine ⟨century, block, year, (dayOfCycle - 36524 * century) % 1461 - 365 * year, ?_⟩
  constructor <;> omega

namespace Place
variable {dayOfCycle century block year day : Int} (place : Place dayOfCycle century block year day)
include place

/-- The year is found by leaving out the leap days that may have passed. -/
theorem yearOfCycle_eq :
    (dayOfCycle - dayOfCycle / 1460 + dayOfCycle / 36524 - dayOfCycle / 146096) / 365 =
      100 * century + 4 * block + year := by
  obtain ⟨whole, _, _, _, _⟩ := place
  have blocks : dayOfCycle / 1460 = 25 * century + block ∨
      dayOfCycle / 1460 = 25 * century + block + 1 := by omega
  have centuries : dayOfCycle / 36524 = century ∨ dayOfCycle / 36524 = 4 := by omega
  have last : dayOfCycle / 146096 = 0 ∨ dayOfCycle / 146096 = 1 := by omega
  omega

theorem dayOfYear_eq :
    dayOfCycle - (365 * (100 * century + 4 * block + year) +
      (100 * century + 4 * block + year) / 4 - (100 * century + 4 * block + year) / 100) = day := by
  obtain ⟨whole, _, _, _, _⟩ := place
  omega

/-- A year of 366 days, counted from March, ends in a leap year. -/
theorem isLeapYear_of_long (long : day = 365) (cycle : Int) :
    isLeapYear (100 * century + 4 * block + year + cycle * 400 + 1) = true := by
  obtain ⟨_, _, _, _, _⟩ := place
  simp only [isLeapYear, Bool.and_eq_true, Bool.or_eq_true, beq_iff_eq, bne_iff_ne]
  omega

end Place

/-! ### Months

Counted from March, the months have 31, 30, 31, 30 and 31 days over and over. -/

/-- The first day of a month, counted from March. -/
def monthStart (month : Int) : Int := (153 * month + 2) / 5

theorem month_bounds {day : Int} (low : 0 ≤ day) (high : day ≤ 365) :
    0 ≤ (5 * day + 2) / 153 ∧ (5 * day + 2) / 153 < 12 ∧
      monthStart ((5 * day + 2) / 153) ≤ day ∧ day < monthStart ((5 * day + 2) / 153 + 1) := by
  unfold monthStart
  omega

/-- A day with its month counted from March. -/
def ofPlace (year month day : Int) : CivilDay :=
  let ordinary := if month < 10 then month + 3 else month - 9
  ⟨if ordinary ≤ 2 then year + 1 else year, ordinary.toNat, (day - monthStart month + 1).toNat⟩

theorem toDays_ofPlace {year month day : Int} (first : 0 ≤ month) (last : month < 12)
    (begun : monthStart month ≤ day) :
    (ofPlace year month day).toDays =
      year / 400 * 146097 + (year % 400 * 365 + year % 400 / 4 - year % 400 / 100 + day) - 719468 := by
  have march : ((ofPlace year month day).month + 9) % 12 = month := by
    unfold ofPlace
    dsimp only
    split <;> omega
  have years : (if (ofPlace year month day).month ≤ 2 then (ofPlace year month day).year - 1
      else (ofPlace year month day).year) = year := by
    unfold ofPlace
    dsimp only
    split_ifs <;> omega
  have days : ((ofPlace year month day).day : Int) = day - monthStart month + 1 := by
    unfold ofPlace
    dsimp only
    omega
  unfold toDays
  dsimp only
  rw [march, years, days, monthStart]
  omega

theorem isValid_ofPlace {year month day : Int} (first : 0 ≤ month) (last : month < 12)
    (begun : monthStart month ≤ day) (before : day < monthStart (month + 1)) (within : day ≤ 365)
    (leap : day = 365 → isLeapYear (year + 1) = true) : (ofPlace year month day).isValid = true := by
  by_cases february : month = 11
  · subst february
    have length : day - monthStart 11 + 1 ≤ monthLength (year + 1) 2 := by
      unfold monthLength monthStart
      by_cases long : day = 365
      · rw [if_pos rfl, leap long, long]
        decide
      · rw [if_pos rfl]
        split <;> omega
    unfold monthStart at begun length
    simp [ofPlace, isValid, monthStart]
    omega
  · unfold monthStart at begun before
    interval_cases month <;>
      first
        | exact absurd rfl february
        | (simp [ofPlace, isValid, monthLength, monthStart]
           omega)

theorem ofDays_eq (days : Int) : ∃ year month day, ofDays days = ofPlace year month day ∧
    0 ≤ month ∧ month < 12 ∧ monthStart month ≤ day ∧ day < monthStart (month + 1) ∧ day ≤ 365 ∧
    (day = 365 → isLeapYear (year + 1) = true) ∧
    year / 400 * 146097 + (year % 400 * 365 + year % 400 / 4 - year % 400 / 100 + day) - 719468 =
      days := by
  obtain ⟨dayOfCycle, isDay⟩ : ∃ d, d = (days + 719468) % 146097 := ⟨_, rfl⟩
  obtain ⟨cycle, isCycle⟩ : ∃ c, c = (days + 719468) / 146097 := ⟨_, rfl⟩
  obtain ⟨century, block, year, day, place⟩ :=
    exists_place (show 0 ≤ dayOfCycle by omega) (show dayOfCycle < 146097 by omega)
  have short : 0 ≤ day ∧ day ≤ 365 := by
    obtain ⟨_, _, _, _, _⟩ := place
    omega
  obtain ⟨first, last, begun, before⟩ := month_bounds short.1 short.2
  refine ⟨100 * century + 4 * block + year + cycle * 400, (5 * day + 2) / 153, day, ?_, first, last,
    begun, before, short.2, fun long => place.isLeapYear_of_long long cycle, ?_⟩
  · unfold ofDays
    dsimp only
    rw [← isDay, ← isCycle, place.yearOfCycle_eq, place.dayOfYear_eq]
    rfl
  · obtain ⟨whole, _, _, _, _⟩ := place
    have cycles : (100 * century + 4 * block + year + cycle * 400) / 400 = cycle := by omega
    have years : (100 * century + 4 * block + year + cycle * 400) % 400 =
        100 * century + 4 * block + year := by omega
    have blocks : (100 * century + 4 * block + year) / 4 = 25 * century + block := by omega
    have centuries : (100 * century + 4 * block + year) / 100 = century := by omega
    rw [cycles, years, blocks, centuries]
    omega

theorem toDays_ofDays (days : Int) : (ofDays days).toDays = days := by
  obtain ⟨year, month, day, place, first, last, begun, _, _, _, total⟩ := ofDays_eq days
  rw [place, toDays_ofPlace first last begun, total]

theorem isValid_ofDays (days : Int) : (ofDays days).isValid = true := by
  obtain ⟨year, month, day, place, first, last, begun, before, within, leap, _⟩ := ofDays_eq days
  rw [place]
  exact isValid_ofPlace first last begun before within leap

/-- Two digits are enough for the month and for the day. -/
theorem two_digits {d : CivilDay} (valid : d.isValid = true) : d.month < 100 ∧ d.day < 100 := by
  simp only [isValid, Bool.and_eq_true, decide_eq_true_eq] at valid
  have length : monthLength d.year d.month ≤ 31 := by
    unfold monthLength
    split_ifs <;> omega
  omega

end OutboxRelay.CivilDay
