import PromptTemplate.Time.Calendar
/-!
# Time zones

An instant is a count of milliseconds from 1970-01-01T00:00Z. A zone says, for every instant, how
many minutes its local time is ahead of universal time: always the same number, or one that
follows a summer-time rule.
-/

namespace PromptTemplate

/-- Milliseconds from 1970-01-01T00:00Z. -/
abbrev Instant := Int

/-- Milliseconds in a minute. -/
def msPerMinute : Int := 60000

/-- Milliseconds in an hour. -/
def msPerHour : Int := 3600000

/-- Milliseconds in a day. -/
def msPerDay : Int := 86400000

/-- A time zone, by the minutes that local time is ahead. -/
structure Zone where
  offsetAt : Instant → Int

/-- A rule for summer time: the minutes ahead in winter and in summer, and when summer time begins
and ends in a year. -/
structure SummerTime where
  standard : Int
  summer : Int
  begins : Int → Instant
  ends : Int → Instant

namespace Zone

/-- The zone that is always `minutes` ahead. -/
def fixed (minutes : Int) : Zone := ⟨fun _ => minutes⟩

/-- Universal time. -/
def utc : Zone := fixed 0

/-- The zone of a summer-time rule. -/
def ofSummerTime (rule : SummerTime) : Zone :=
  ⟨fun t =>
    let year := (Date.ofDay (t / msPerDay)).year
    if rule.begins year ≤ t ∧ t < rule.ends year then rule.summer else rule.standard⟩

/-- The last Sunday of a month, as a day. -/
def lastSunday (year : Int) (month : Nat) : Int :=
  let last := Date.day ⟨year, month, Date.monthLength year month⟩
  last - Date.weekday last

/-- The `n`-th Sunday of a month, as a day. -/
def nthSunday (n : Nat) (year : Int) (month : Nat) : Int :=
  let first := Date.day ⟨year, month, 1⟩
  first + (7 - Date.weekday first) % 7 + 7 * (n - 1)

/-- Central European time: an hour ahead, and another from the last Sunday of March to the last
Sunday of October, both at one o'clock universal time. -/
def centralEurope : Zone :=
  ofSummerTime
    { standard := 60
      summer := 120
      begins := fun year => lastSunday year 3 * msPerDay + 1 * msPerHour
      ends := fun year => lastSunday year 10 * msPerDay + 1 * msPerHour }

/-- Eastern time of North America: five hours behind, and four from the second Sunday of March to
the first Sunday of November, both at two o'clock local time. -/
def easternAmerica : Zone :=
  ofSummerTime
    { standard := -300
      summer := -240
      begins := fun year => nthSunday 2 year 3 * msPerDay + 7 * msPerHour
      ends := fun year => nthSunday 1 year 11 * msPerDay + 6 * msPerHour }

@[simp] theorem offsetAt_fixed (minutes : Int) (t : Instant) :
    (fixed minutes).offsetAt t = minutes := rfl

end Zone

end PromptTemplate
