import PromptTemplate.Number.Integer
import PromptTemplate.Time.Zone
/-!
# Written times

The texts of an instant in a zone: a date, a date with hour and minute, and a full RFC 3339 time
with the offset of the zone. Years are written without padding and may be zero or negative;
everything else has a fixed width. An instant too far from 1970 has no date: its texts have `NaN`
for every part. The ISO 8601 text of an instant is always in universal time and gives years outside
0 to 9999 a sign and six digits; an instant without a date has none.
-/

namespace PromptTemplate

open Number (intText natText padLeft)

/-- The greatest distance of an instant from 1970-01-01T00:00Z: a hundred million days. -/
def maxInstant : Nat := 8640000000000000

/-- The instant can be dated. -/
def isDatable (t : Instant) : Bool := decide (t.natAbs ≤ maxInstant)

/-- A local time: its date, the milliseconds since midnight, and the minutes it is ahead of
universal time. -/
structure LocalTime where
  date : Date
  msOfDay : Nat
  offset : Int
  deriving Repr, DecidableEq

namespace LocalTime

/-- The local time of an instant. -/
def ofInstant (zone : Zone) (t : Instant) : LocalTime :=
  let offset := zone.offsetAt t
  let shifted := t + offset * msPerMinute
  ⟨Date.ofDay (shifted / msPerDay), (shifted % msPerDay).toNat, offset⟩

/-- The instant of a local time. -/
def instant (l : LocalTime) : Instant :=
  l.date.day * msPerDay + l.msOfDay - l.offset * msPerMinute

/-- The hour, from 0 to 23. -/
def hour (l : LocalTime) : Nat := l.msOfDay / 3600000

/-- The minute of the hour. -/
def minute (l : LocalTime) : Nat := l.msOfDay / 60000 % 60

/-- The second of the minute. -/
def second (l : LocalTime) : Nat := l.msOfDay / 1000 % 60

/-- The millisecond of the second. -/
def millisecond (l : LocalTime) : Nat := l.msOfDay % 1000

end LocalTime

/-- A number in two places. -/
def twoPlaces (n : Nat) : String := padLeft 2 '0' (natText n)

/-- Month and day of a date. -/
def monthDayText (date : Date) : String :=
  "-" ++ twoPlaces date.month ++ "-" ++ twoPlaces date.dayOfMonth

/-- Year, month and day: `2025-01-15`. -/
def dateText (date : Date) : String := intText date.year ++ monthDayText date

/-- Hour and minute: `14:30`. -/
def timeText (l : LocalTime) : String := twoPlaces l.hour ++ ":" ++ twoPlaces l.minute

/-- The fraction of a second: `.007`; nothing on a full second. -/
def fractionText (ms : Nat) : String :=
  if ms = 0 then "" else "." ++ padLeft 3 '0' (natText ms)

/-- An offset from universal time: `+01:00`. -/
def offsetText (minutes : Int) : String :=
  (if minutes < 0 then "-" else "+") ++ twoPlaces (minutes.natAbs / 60) ++ ":" ++
    twoPlaces (minutes.natAbs % 60)

/-- The date of an instant in a zone: `2025-01-15`. -/
def formatDate (zone : Zone) (t : Instant) : String :=
  if isDatable t then dateText (LocalTime.ofInstant zone t).date else "NaN-NaN-NaN"

/-- Date and time of an instant in a zone: `2025-01-15 14:30`. -/
def formatDateTime (zone : Zone) (t : Instant) : String :=
  if isDatable t then
    let l := LocalTime.ofInstant zone t
    dateText l.date ++ " " ++ timeText l
  else "NaN-NaN-NaN NaN:NaN"

/-- The RFC 3339 time of an instant in a zone: `2025-01-15T14:30:00+01:00`. -/
def formatRfc3339 (zone : Zone) (t : Instant) : String :=
  if isDatable t then
    let l := LocalTime.ofInstant zone t
    dateText l.date ++ "T" ++ timeText l ++ ":" ++ twoPlaces l.second ++
      fractionText l.millisecond ++ offsetText l.offset
  else "NaN-NaN-NaNTNaN:NaN:NaN.NaN+NaN:NaN"

/-- The year in the ISO 8601 text of an instant. -/
def isoYear (year : Int) : String :=
  if 0 ≤ year ∧ year ≤ 9999 then padLeft 4 '0' (natText year.natAbs)
  else (if year < 0 then "-" else "+") ++ padLeft 6 '0' (natText year.natAbs)

/-- The ISO 8601 text of an instant that can be dated: `2025-01-15T13:30:00.000Z`. -/
def formatIso? (t : Instant) : Option String :=
  if isDatable t then
    let l := LocalTime.ofInstant Zone.utc t
    some (isoYear l.date.year ++ monthDayText l.date ++ "T" ++ timeText l ++ ":" ++
      twoPlaces l.second ++ "." ++ padLeft 3 '0' (natText l.millisecond) ++ "Z")
  else none

end PromptTemplate
