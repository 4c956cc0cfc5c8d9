import Mathlib.Order.Monotone.Basic
import Mathlib.Tactic.IntervalCases
import PromptTemplate.Time.Calendar
/-!
# Days and dates

A date of the Gregorian calendar has one of twelve months and a day of that month
(`Date.IsValid`), and the date after it follows from the lengths of months alone (`Date.next`).
`Date.day` goes up by one from each date to the next (`Date.day_next`), and no other count from
1970-01-01 does (`Date.IsCount.eq_day`); `Date.ofDay` finds the date of every day
(`Date.isValid_ofDay`, `Date.day_ofDay`). So days and dates are in the same order
(`Date.Before.day_lt`), and one day on is one date on (`Date.ofDay_succ`).
-/

namespace PromptTemplate.Date

/-- The month is one of the twelve, and the day is one of the month. -/
structure IsValid (date : Date) : Prop where
  month_pos : 1 ≤ date.month
  month_le : date.month ≤ 12
  day_pos : 1 ≤ date.dayOfMonth
  day_le : date.dayOfMonth ≤ monthLength date.year date.month

/-- The date after a date. -/
def next (date : Date) : Date :=
  if date.dayOfMonth < monthLength date.year date.month then
    ⟨date.year, date.month, date.dayOfMonth + 1⟩
  else if date.month < 12 then ⟨date.year, date.month + 1, 1⟩
  else ⟨date.year + 1, 1, 1⟩

/-! ## Years and months -/

/-- The leap days from the year one on that come before a year. -/
def leapDays (year : Int) : Int := (year - 1) / 4 - (year - 1) / 100 + (year - 1) / 400

/-- The days of a year before a month. -/
def monthStart (year : Int) : Nat → Nat
  | 0 => 0
  | 1 => 0
  | month + 2 => monthStart year (month + 1) + monthLength year (month + 1)

theorem isLeap_iff (year : Int) :
    isLeap year = true ↔ year % 4 = 0 ∧ (year % 100 ≠ 0 ∨ year % 400 = 0) := by
  simp [isLeap]

theorem leapDays_succ (year : Int) :
    leapDays (year + 1) = leapDays year + if isLeap year then 1 else 0 := by
  unfold leapDays
  split
  · next h =>
    rw [isLeap_iff] at h
    omega
  · next h =>
    rw [isLeap_iff] at h
    omega

theorem leapDays_le {a b : Int} (h : a ≤ b) : leapDays a ≤ leapDays b := by
  refine monotone_int_of_le_succ (fun year => ?_) h
  rw [leapDays_succ]
  split <;> omega

theorem monthLength_pos (year : Int) (month : Nat) : 1 ≤ monthLength year month := by
  unfold monthLength
  split <;> split <;> omega

theorem monthLength_le (year : Int) (month : Nat) : monthLength year month ≤ 31 := by
  unfold monthLength
  split <;> split <;> omega

theorem monthStart_succ (year : Int) {month : Nat} (h : 1 ≤ month) :
    monthStart year (month + 1) = monthStart year month + monthLength year month := by
  obtain ⟨m, rfl⟩ := Nat.exists_eq_add_of_le' h
  rfl

theorem monthStart_le (year : Int) {a b : Nat} (h : a ≤ b) :
    monthStart year a ≤ monthStart year b := by
  refine monotone_nat_of_le_succ (fun month => ?_) h
  cases month with
  | zero => exact Nat.le_refl 0
  | succ month => exact Nat.le_add_right _ _

theorem monthStart_of_lt {year : Int} {month : Nat} (hpos : 1 ≤ month) (h : month < 3) :
    monthStart year month = 31 * (month - 1) := by
  interval_cases month <;> rfl

/-- From March on the lengths of months repeat after five of them, with 153 days. -/
theorem monthStart_add_three (year : Int) {month : Nat} (h : month ≤ 9) :
    monthStart year (month + 3) = (153 * month + 2) / 5 + 59 + if isLeap year then 1 else 0 := by
  have hmarch : monthStart year 3 = 59 + if isLeap year then 1 else 0 := by
    cases h : isLeap year <;> simp [monthStart, monthLength, h]
  rw [Nat.add_assoc, ← hmarch]
  interval_cases month <;> simp [monthStart, monthLength] <;> omega

theorem monthStart_thirteen (year : Int) :
    monthStart year 13 = 365 + if isLeap year then 1 else 0 := by
  rw [monthStart_succ year (by decide), monthStart_add_three year (show 9 ≤ 9 by decide)]
  simp only [monthLength]
  simp
  omega

/-! ## The count -/

theorem cycle_eq (year : Int) :
    year / 400 * cycleDays + (365 * (year % 400) + year % 400 / 4 - year % 400 / 100) =
      365 * year + leapDays (year + 1) := by
  unfold cycleDays leapDays
  omega

/-- March to December stand in the year that begins with that March. -/
theorem day_of_march (year : Int) (month dayOfMonth : Nat) :
    day ⟨year, month + 3, dayOfMonth⟩ =
      365 * year + leapDays (year + 1) + ((153 * month + 2) / 5 : Nat) + dayOfMonth - 719469 := by
  have hyear := cycle_eq year
  unfold day epochMarch
  rw [if_neg (by simp)]
  dsimp only
  rw [Nat.add_sub_cancel]
  omega

/-- January and February stand in the year that began with the March before. -/
theorem day_of_january (year : Int) {month : Nat} (h : month < 2) (dayOfMonth : Nat) :
    day ⟨year + 1, month + 1, dayOfMonth⟩ =
      365 * year + leapDays (year + 1) + ((153 * (month + 10) + 2) / 5 : Nat) + dayOfMonth -
        719469 := by
  have hyear := cycle_eq year
  unfold day epochMarch
  rw [if_pos (show month + 1 < 3 by omega)]
  dsimp only
  rw [Int.add_sub_cancel]
  omega

/-- The count in years that begin in January: the days of the years before, of the months before
and of the month. -/
theorem day_eq (year : Int) {month : Nat} (hpos : 1 ≤ month) (hle : month ≤ 12)
    (dayOfMonth : Nat) :
    day ⟨year, month, dayOfMonth⟩ =
      365 * year + leapDays year + monthStart year month + dayOfMonth - 719528 := by
  by_cases h : month < 3
  · obtain ⟨m, rfl⟩ := Nat.exists_eq_add_of_le' hpos
    have hday := day_of_january (year - 1) (show m < 2 by omega) dayOfMonth
    rw [Int.sub_add_cancel] at hday
    rw [hday, monthStart_of_lt hpos h]
    omega
  · obtain ⟨m, rfl⟩ := Nat.exists_eq_add_of_le' (Nat.not_lt.1 h)
    rw [day_of_march year, monthStart_add_three year (by omega), leapDays_succ]
    split <;> omega

theorem day_next {date : Date} (h : date.IsValid) : date.next.day = date.day + 1 := by
  obtain ⟨year, month, dayOfMonth⟩ := date
  obtain ⟨hpos, hle, hday, hlen⟩ := h
  dsimp only at hpos hle hday hlen
  rw [day_eq year hpos hle]
  unfold next
  dsimp only
  split
  · rw [day_eq year hpos hle]
    omega
  · have hlast : dayOfMonth = monthLength year month := by omega
    split
    · next hm =>
      rw [day_eq year (Nat.le_add_left 1 month) hm, monthStart_succ year hpos]
      omega
    · have hdecember : month = 12 := by omega
      subst hdecember
      have hyear := monthStart_thirteen year
      rw [monthStart_succ year (by decide), ← hlast] at hyear
      rw [day_eq (year + 1) (Nat.le_refl 1) (by decide), leapDays_succ,
        monthStart_of_lt (Nat.le_refl 1) (by decide)]
      split at hyear <;> simp_all <;> omega

/-! ## The date of a day -/

/-- The parts of a day of a cycle: centuries, fours of years, years and days. The 366th day of a
year ends four years, and a century only if that is the last of the cycle. -/
theorem exists_yearOfCycle {d : Nat} (h : d < 146097) :
    ∃ century four year dayOfYear, century ≤ 3 ∧ four ≤ 24 ∧ year ≤ 3 ∧ dayOfYear ≤ 365 ∧
      yearOfCycle d = (100 * century + 4 * four + year, dayOfYear) ∧
      36524 * century + 1461 * four + 365 * year + dayOfYear = d ∧
      (dayOfYear = 365 → year = 3 ∧ (four = 24 → century = 3)) := by
  refine ⟨min 3 (d / 36524), (d - 36524 * min 3 (d / 36524)) / 1461,
    min 3 ((d - 36524 * min 3 (d / 36524) -
      1461 * ((d - 36524 * min 3 (d / 36524)) / 1461)) / 365), _, ?_, ?_, ?_, ?_, rfl, ?_, ?_⟩
  all_goals omega

theorem yearOfCycle_spec (cycle : Int) {d : Nat} (h : d < 146097) :
    146097 * cycle + d = 365 * (400 * cycle + (yearOfCycle d).1) +
        leapDays (400 * cycle + (yearOfCycle d).1 + 1) + (yearOfCycle d).2 ∧
      (yearOfCycle d).2 < 365 + if isLeap (400 * cycle + (yearOfCycle d).1 + 1) then 1 else 0 := by
  obtain ⟨century, four, year, dayOfYear, hcentury, hfour, hyear, hday, heq, hsum, hlast⟩ :=
    exists_yearOfCycle h
  rw [heq]
  dsimp only
  constructor
  · have hfours : (400 * cycle + (100 * century + 4 * four + year : Nat)) / 4 =
        100 * cycle + 25 * century + four := by omega
    have hcenturies : (400 * cycle + (100 * century + 4 * four + year : Nat)) / 100 =
        4 * cycle + century := by omega
    have hcycles : (400 * cycle + (100 * century + 4 * four + year : Nat)) / 400 = cycle := by
      omega
    rw [leapDays, Int.add_sub_cancel, hfours, hcenturies, hcycles]
    omega
  · split
    · omega
    · next hleap =>
      rw [isLeap_iff] at hleap
      omega

theorem monthOfYear_spec {d : Nat} (h : d < 366) :
    (monthOfYear d).1 < 12 ∧ (153 * (monthOfYear d).1 + 2) / 5 + (monthOfYear d).2 = d ∧
      d < (153 * ((monthOfYear d).1 + 1) + 2) / 5 := by
  simp only [monthOfYear]
  omega

/-- The date of a day, in years that begin in March. -/
theorem exists_ofDay (d : Int) : ∃ (year : Int) (month dayOfMonth : Nat), month < 12 ∧
    (153 * month + 2) / 5 + dayOfMonth < (153 * (month + 1) + 2) / 5 ∧
    (153 * month + 2) / 5 + dayOfMonth < 365 + (if isLeap (year + 1) then 1 else 0) ∧
    d = 365 * year + leapDays (year + 1) + ((153 * month + 2) / 5 : Nat) + dayOfMonth - 719468 ∧
    ofDay d = if month < 10 then ⟨year, month + 3, dayOfMonth + 1⟩
      else ⟨year + 1, month - 9, dayOfMonth + 1⟩ := by
  have hcycle : ((d - epochMarch) % cycleDays).toNat < 146097 := by
    unfold epochMarch cycleDays
    omega
  have hday : d = 146097 * ((d - epochMarch) / cycleDays) +
      ((d - epochMarch) % cycleDays).toNat - 719468 := by
    unfold epochMarch cycleDays
    omega
  obtain ⟨hsum, hlt⟩ := yearOfCycle_spec ((d - epochMarch) / cycleDays) hcycle
  obtain ⟨hm, hdays, hnext⟩ := monthOfYear_spec (Nat.lt_of_lt_of_le hlt (by split <;> omega))
  unfold ofDay
  dsimp only
  generalize yearOfCycle ((d - epochMarch) % cycleDays).toNat = ofCycle at *
  generalize monthOfYear ofCycle.2 = ofYear at *
  refine ⟨_, ofYear.1, ofYear.2, hm, ?_, ?_, ?_, rfl⟩
  · rw [hdays]
    exact hnext
  · rw [hdays]
    exact hlt
  · omega

theorem isValid_ofDay (d : Int) : (ofDay d).IsValid := by
  obtain ⟨year, month, dayOfMonth, hm, hmonth, hyear, -, heq⟩ := exists_ofDay d
  rw [heq]
  by_cases h : month < 10
  · rw [if_pos h]
    refine ⟨Nat.le_add_left 1 _, by dsimp only; omega, Nat.le_add_left 1 _, ?_⟩
    dsimp only
    interval_cases month <;> simp [monthLength] <;> omega
  · obtain ⟨m, rfl⟩ := Nat.exists_eq_add_of_le' (Nat.not_lt.1 h)
    rw [if_neg h, show m + 10 - 9 = m + 1 by omega]
    refine ⟨Nat.le_add_left 1 _, by dsimp only; omega, Nat.le_add_left 1 _, ?_⟩
    dsimp only
    obtain rfl | rfl : m = 0 ∨ m = 1 := by omega
    · simp [monthLength]
      omega
    · -- The last month of the year is as long as the year is.
      cases hleap : isLeap (year + 1) <;> simp [monthLength, hleap] at hyear ⊢ <;> omega

@[simp] theorem day_ofDay (d : Int) : (ofDay d).day = d := by
  obtain ⟨year, month, dayOfMonth, hm, -, -, hsum, heq⟩ := exists_ofDay d
  rw [heq]
  by_cases h : month < 10
  · rw [if_pos h, day_of_march]
    omega
  · obtain ⟨m, rfl⟩ := Nat.exists_eq_add_of_le' (Nat.not_lt.1 h)
    rw [if_neg h, show m + 10 - 9 = m + 1 by omega, day_of_january year (by omega)]
    omega

/-! ## Order -/

/-- One date comes before another: in an earlier year, or in the same year in an earlier month, or
in the same month on an earlier day. -/
def Before (a b : Date) : Prop :=
  a.year < b.year ∨ a.year = b.year ∧
    (a.month < b.month ∨ a.month = b.month ∧ a.dayOfMonth < b.dayOfMonth)

theorem before_or_eq_or_before (a b : Date) : a.Before b ∨ a = b ∨ b.Before a := by
  obtain ⟨year, month, dayOfMonth⟩ := a
  obtain ⟨year', month', dayOfMonth'⟩ := b
  simp only [Before, mk.injEq]
  omega

theorem IsValid.day_of_month_le {date : Date} (h : date.IsValid) :
    monthStart date.year date.month + date.dayOfMonth ≤ monthStart date.year (date.month + 1) := by
  rw [monthStart_succ _ h.month_pos]
  exact Nat.add_le_add_left h.day_le _

theorem Before.day_lt {a b : Date} (ha : a.IsValid) (hb : b.IsValid) (h : a.Before b) :
    a.day < b.day := by
  have hlast := ha.day_of_month_le
  have hpos := hb.day_pos
  rw [day_eq a.year ha.month_pos ha.month_le, day_eq b.year hb.month_pos hb.month_le]
  rcases h with hyear | ⟨hyear, hmonth | ⟨hmonth, hday⟩⟩
  · -- The year before ends before the other begins.
    have hend := monthStart_le a.year (Nat.succ_le_succ ha.month_le)
    have hleap := leapDays_le (Int.add_one_le_of_lt hyear)
    rw [leapDays_succ] at hleap
    rw [monthStart_thirteen] at hend
    split at hend <;> simp_all <;> omega
  · have hstart := monthStart_le a.year (show a.month + 1 ≤ b.month from hmonth)
    rw [← hyear]
    omega
  · rw [← hyear, ← hmonth]
    omega

theorem IsValid.eq_of_day_eq {a b : Date} (ha : a.IsValid) (hb : b.IsValid) (h : a.day = b.day) :
    a = b := by
  rcases before_or_eq_or_before a b with hab | rfl | hba
  · exact absurd h (Int.ne_of_lt (hab.day_lt ha hb))
  · rfl
  · exact absurd h.symm (Int.ne_of_lt (hba.day_lt hb ha))

theorem IsValid.ofDay_day {date : Date} (h : date.IsValid) : ofDay date.day = date :=
  (isValid_ofDay _).eq_of_day_eq h (day_ofDay _)

theorem IsValid.next {date : Date} (h : date.IsValid) : date.next.IsValid := by
  unfold Date.next
  split
  · next hday => exact ⟨h.month_pos, h.month_le, Nat.le_add_left 1 _, hday⟩
  · split
    · next hmonth => exact ⟨Nat.le_add_left 1 _, hmonth, Nat.le_refl 1, monthLength_pos _ _⟩
    · exact ⟨Nat.le_refl 1, (by decide : 1 ≤ 12), Nat.le_refl 1, monthLength_pos _ _⟩

theorem ofDay_succ (d : Int) : ofDay (d + 1) = (ofDay d).next := by
  have h := isValid_ofDay d
  have hday := day_next h
  rw [day_ofDay] at hday
  rw [← hday]
  exact h.next.ofDay_day

/-! ## Other counts -/

/-- The days are counted from 1970-01-01, and each date has one more than the date before it. -/
structure IsCount (count : Date → Int) : Prop where
  epoch : count ⟨1970, 1, 1⟩ = 0
  next : ∀ date : Date, date.IsValid → count date.next = count date + 1

theorem isCount_day : IsCount day := ⟨by decide, fun _ => day_next⟩

/-- There is no other count of the dates. -/
theorem IsCount.eq_day {count : Date → Int} (h : IsCount count) {date : Date}
    (hdate : date.IsValid) : count date = date.day := by
  have hofDay (d : Int) : count (ofDay d) = d := by
    induction d with
    | zero => exact h.epoch
    | succ d ih => rw [ofDay_succ, h.next _ (isValid_ofDay _), ih]
    | pred d ih =>
      have hnext := h.next _ (isValid_ofDay (-(d : Int) - 1))
      rw [← ofDay_succ, Int.sub_add_cancel, ih] at hnext
      omega
  rw [← hdate.ofDay_day, hofDay, day_ofDay]

end PromptTemplate.Date
