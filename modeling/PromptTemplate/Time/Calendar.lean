/-!
# The calendar

Days are counted from 1970-01-01. `Date.ofDay` finds the date of a day in the Gregorian calendar,
extended without end to both sides: the year zero and years before it exist.

The count goes through cycles of 400 years that begin on the first of March, so that the leap day
is the last day of its year: a century has 36524 days, four years have 1461, and only the last
century of a cycle and the last year of four are a day longer. `Date.day` counts back.
-/

namespace PromptTemplate

/-- A date; January is month one. -/
structure Date where
  year : Int
  month : Nat
  dayOfMonth : Nat
  deriving Repr, DecidableEq

namespace Date

/-- Days in 400 years. -/
def cycleDays : Int := 146097

/-- The first of March of the year zero, counted from 1970-01-01. -/
def epochMarch : Int := -719468

/-- The year of a cycle and the day of that year, both from zero, for a day of a cycle. -/
def yearOfCycle (d : Nat) : Nat × Nat :=
  let century := min 3 (d / 36524)
  let ofCentury := d - 36524 * century
  let four := ofCentury / 1461
  let ofFour := ofCentury - 1461 * four
  let year := min 3 (ofFour / 365)
  (100 * century + 4 * four + year, ofFour - 365 * year)

/-- The month from zero, March being the first, and the day of it from zero, for a day of a
year. -/
def monthOfYear (d : Nat) : Nat × Nat :=
  let month := (5 * d + 2) / 153
  (month, d - (153 * month + 2) / 5)

/-- The date of a day. -/
def ofDay (day : Int) : Date :=
  let shifted := day - epochMarch
  let cycle := shifted / cycleDays
  let (year, dayOfYear) := yearOfCycle (shifted % cycleDays).toNat
  let (month, dayOfMonth) := monthOfYear dayOfYear
  if month < 10 then ⟨400 * cycle + year, month + 3, dayOfMonth + 1⟩
  else ⟨400 * cycle + year + 1, month - 9, dayOfMonth + 1⟩

/-- The day of a date. -/
def day (date : Date) : Int :=
  let (year, month) :=
    if date.month < 3 then (date.year - 1, date.month + 9) else (date.year, date.month - 3)
  let cycle := year / 400
  let ofCycle := year % 400
  cycle * cycleDays + (365 * ofCycle + ofCycle / 4 - ofCycle / 100) +
    (153 * month + 2) / 5 + ((date.dayOfMonth : Int) - 1) + epochMarch

/-- The year has a leap day. -/
def isLeap (year : Int) : Bool := year % 4 == 0 && (year % 100 != 0 || year % 400 == 0)

/-- How many days a month has. -/
def monthLength (year : Int) (month : Nat) : Nat :=
  if month = 2 then (if isLeap year then 29 else 28)
  else if month = 4 ∨ month = 6 ∨ month = 9 ∨ month = 11 then 30
  else 31

/-- The day of the week, Sunday being zero. -/
def weekday (day : Int) : Nat := ((day + 4) % 7).toNat

/-! ## Facts -/

example : ofDay 0 = ⟨1970, 1, 1⟩ ∧ ofDay 11016 = ⟨2000, 2, 29⟩ ∧ ofDay (-719528) = ⟨0, 1, 1⟩ := by
  decide

end Date

end PromptTemplate
