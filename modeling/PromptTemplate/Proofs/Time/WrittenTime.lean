import PromptTemplate.Proofs.Number.Digits
import PromptTemplate.Proofs.Text.Cut
import PromptTemplate.Proofs.Time.Calendar
import PromptTemplate.Time.Stamp
/-!
# Reading written times

The RFC 3339 text of an instant spells the fields of a local time (`WrittenTime`), each in its
range, and can be read again from the left, field by field (`WrittenTime.read?_text`). The fields
tell the instant, so that no two instants have the same text, in the same zone or in different ones
(`exists_written_formatRfc3339`).
-/

namespace PromptTemplate

open Number (intText natText padLeft digits?)
open Text (cut?)

/-- The fields of a written time: date and time of day, the fraction of the second if there is one,
and how many hours and minutes the time is ahead of universal time or behind it. -/
structure WrittenTime where
  date : Date
  hour : Nat
  minute : Nat
  second : Nat
  fraction : Option Nat
  behind : Bool
  offsetHour : Nat
  offsetMinute : Nat
  deriving DecidableEq

namespace WrittenTime

/-- Each field is in its range, and the fraction is not zero. -/
structure IsValid (w : WrittenTime) : Prop where
  date : w.date.IsValid
  hour : w.hour ≤ 23
  minute : w.minute ≤ 59
  second : w.second ≤ 59
  fraction : ∀ ms ∈ w.fraction, 1 ≤ ms ∧ ms ≤ 999
  offsetMinute : w.offsetMinute ≤ 59

/-- The minutes that the time is ahead of universal time. -/
def offset (w : WrittenTime) : Int :=
  let minutes := 60 * w.offsetHour + w.offsetMinute
  if w.behind then -(minutes : Int) else minutes

/-- The instant: the milliseconds of the days before, and of the day, in universal time. -/
def instant (w : WrittenTime) : Instant :=
  w.date.day * msPerDay + w.hour * msPerHour + w.minute * msPerMinute + w.second * 1000 +
    (w.fraction.getD 0 : Nat) - w.offset * msPerMinute

/-- The point and the digits of a fraction, if there is one. -/
def fractionPart : Option Nat → String
  | none => ""
  | some ms => "." ++ padLeft 3 '0' (natText ms)

/-- The sign of an offset. -/
def signPart (behind : Bool) : String := if behind then "-" else "+"

/-- The text of the fields, from the year to the offset. -/
def text (w : WrittenTime) : String :=
  dateText w.date ++ "T" ++ twoPlaces w.hour ++ ":" ++ twoPlaces w.minute ++ ":" ++
    twoPlaces w.second ++ fractionPart w.fraction ++ signPart w.behind ++
    twoPlaces w.offsetHour ++ ":" ++ twoPlaces w.offsetMinute

/-! ## Reading -/

/-- A number of so many digits. -/
def readPlaces? (places : Nat) (cs : List Char) : Option (Nat × List Char) :=
  (digits? (cs.take places)).map fun n => (n, cs.drop places)

/-- A number of any width and the character that ends it. -/
def readUntil? (stop : Char) (cs : List Char) : Option (Nat × List Char) :=
  (cut? [stop] cs).bind fun cut => (digits? cut.1).map fun n => (n, cut.2)

/-- One character. -/
def readChar? (c : Char) : List Char → Option (List Char)
  | [] => none
  | d :: cs => if d = c then some cs else none

/-- A year, which may have a sign, and the dash behind it. -/
def readYear? : List Char → Option (Int × List Char)
  | '-' :: cs => (readUntil? '-' cs).map fun found => (-(found.1 : Int), found.2)
  | cs => (readUntil? '-' cs).map fun found => ((found.1 : Int), found.2)

/-- A fraction of three digits, if there is one. -/
def readFraction? : List Char → Option (Option Nat × List Char)
  | '.' :: cs => (readPlaces? 3 cs).map fun found => (some found.1, found.2)
  | cs => some (none, cs)

/-- The sign of an offset. -/
def readSign? : List Char → Option (Bool × List Char)
  | '-' :: cs => some (true, cs)
  | '+' :: cs => some (false, cs)
  | _ => none

/-- Year, month and day. -/
def readDate? (cs : List Char) : Option (Date × List Char) := do
  let (year, cs) ← readYear? cs
  let (month, cs) ← readPlaces? 2 cs
  let cs ← readChar? '-' cs
  let (dayOfMonth, cs) ← readPlaces? 2 cs
  some (⟨year, month, dayOfMonth⟩, cs)

/-- Hour, minute and second. -/
def readClock? (cs : List Char) : Option ((Nat × Nat × Nat) × List Char) := do
  let (hour, cs) ← readPlaces? 2 cs
  let cs ← readChar? ':' cs
  let (minute, cs) ← readPlaces? 2 cs
  let cs ← readChar? ':' cs
  let (second, cs) ← readPlaces? 2 cs
  some ((hour, minute, second), cs)

/-- The sign, the hours and the minutes of an offset. -/
def readOffset? (cs : List Char) : Option ((Bool × Nat × Nat) × List Char) := do
  let (behind, cs) ← readSign? cs
  let (hour, cs) ← readUntil? ':' cs
  let (minute, cs) ← readPlaces? 2 cs
  some ((behind, hour, minute), cs)

/-- The fields that a text spells. -/
def read? (cs : List Char) : Option WrittenTime := do
  let (date, cs) ← readDate? cs
  let cs ← readChar? 'T' cs
  let ((hour, minute, second), cs) ← readClock? cs
  let (fraction, cs) ← readFraction? cs
  let ((behind, offsetHour, offsetMinute), cs) ← readOffset? cs
  if cs.isEmpty then
    some ⟨date, hour, minute, second, fraction, behind, offsetHour, offsetMinute⟩
  else none

theorem readPlaces?_padLeft {places n : Nat} (hplaces : 1 ≤ places) (h : n < 10 ^ places)
    (rest : List Char) :
    readPlaces? places ((padLeft places '0' (natText n)).toList ++ rest) = some (n, rest) := by
  have hlength := Number.length_padLeft hplaces h
  rw [readPlaces?, List.take_left' hlength, List.drop_left' hlength, Number.digits?_padLeft]
  rfl

theorem readPlaces?_twoPlaces {n : Nat} (h : n < 100) (rest : List Char) :
    readPlaces? 2 ((twoPlaces n).toList ++ rest) = some (n, rest) :=
  readPlaces?_padLeft (by decide) h rest

theorem readUntil?_append {stop : Char} (hstop : Number.digit? stop = none) {cs : List Char}
    {n : Nat} (h : digits? cs = some n) (rest : List Char) :
    readUntil? stop (cs ++ stop :: rest) = some (n, rest) := by
  have hmem : stop ∉ cs := fun hmem => by
    have hdigit := Number.isSome_digit?_of_digits? h stop hmem
    rw [hstop] at hdigit
    cases hdigit
  rw [readUntil?, Text.cut?_singleton_append rest hmem, Option.bind_some, h]
  rfl

theorem readChar?_cons (c : Char) (rest : List Char) : readChar? c (c :: rest) = some rest :=
  if_pos rfl

theorem readYear?_intText (year : Int) (rest : List Char) :
    readYear? ((intText year).toList ++ '-' :: rest) = some (year, rest) := by
  have hdash : Number.digit? '-' = none := by decide
  have hread := readUntil?_append hdash (Number.digits?_natDigits year.natAbs) rest
  rw [Number.toList_intText]
  split
  · have hyear : -(year.natAbs : Int) = year := by omega
    rw [List.append_assoc, List.singleton_append, readYear?, hread, Option.map_some, hyear]
  · have hyear : (year.natAbs : Int) = year := by omega
    have hsign : ∀ cs, Number.natDigits year.natAbs ++ '-' :: rest ≠ '-' :: cs := by
      intro cs heq
      cases hdigits : Number.natDigits year.natAbs with
      | nil => exact Number.natDigits_ne_nil _ hdigits
      | cons c ds =>
        rw [hdigits, List.cons_append, List.cons.injEq] at heq
        have hc := Number.isSome_digit?_of_digits? (Number.digits?_natDigits year.natAbs) c
          (by simp [hdigits])
        rw [heq.1] at hc
        revert hc
        decide
    rw [List.nil_append, readYear?, hread, Option.map_some, hyear]
    exact hsign

theorem readSign?_signPart (behind : Bool) (rest : List Char) :
    readSign? ((signPart behind).toList ++ rest) = some (behind, rest) := by
  cases behind <;> rfl

/-- Behind the second a sign comes next, if no fraction does. -/
theorem readFraction?_fractionPart {fraction : Option Nat} (h : ∀ ms ∈ fraction, ms ≤ 999)
    (behind : Bool) (rest : List Char) :
    readFraction? ((fractionPart fraction).toList ++ ((signPart behind).toList ++ rest)) =
      some (fraction, (signPart behind).toList ++ rest) := by
  cases fraction with
  | none => cases behind <;> rfl
  | some ms =>
    have hread := readPlaces?_padLeft (by decide : 1 ≤ 3) (n := ms) (by have := h ms rfl; omega)
      ((signPart behind).toList ++ rest)
    rw [fractionPart, String.toList_append, String.toList_ofList, List.append_assoc,
      List.singleton_append, readFraction?, hread]
    rfl

theorem readDate?_dateText {date : Date} (h : date.IsValid) (rest : List Char) :
    readDate? ((dateText date).toList ++ rest) = some (date, rest) := by
  have hmonth := h.month_le
  have hday := Nat.le_trans h.day_le (Date.monthLength_le date.year date.month)
  have hdash : "-".toList = ['-'] := rfl
  unfold dateText monthDayText
  simp only [String.toList_append, List.append_assoc, hdash, List.cons_append,
    List.nil_append]
  unfold readDate?
  simp (disch := omega) only [readYear?_intText, readPlaces?_twoPlaces, readChar?_cons,
    Option.bind_eq_bind, Option.bind_some]

theorem readClock?_append {hour minute second : Nat} (hhour : hour ≤ 23) (hminute : minute ≤ 59)
    (hsecond : second ≤ 59) (rest : List Char) :
    readClock? ((twoPlaces hour).toList ++ ':' :: ((twoPlaces minute).toList ++
      ':' :: ((twoPlaces second).toList ++ rest))) = some ((hour, minute, second), rest) := by
  unfold readClock?
  simp (disch := omega) only [readPlaces?_twoPlaces, readChar?_cons, Option.bind_eq_bind,
    Option.bind_some]

theorem readOffset?_append (behind : Bool) (hour : Nat) {minute : Nat} (hminute : minute ≤ 59)
    (rest : List Char) :
    readOffset? ((signPart behind).toList ++ ((twoPlaces hour).toList ++
      ':' :: ((twoPlaces minute).toList ++ rest))) = some ((behind, hour, minute), rest) := by
  have hhour (rest : List Char) :
      readUntil? ':' ((twoPlaces hour).toList ++ ':' :: rest) = some (hour, rest) :=
    readUntil?_append (by decide) (Number.digits?_padLeft 2 hour) rest
  unfold readOffset?
  simp (disch := omega) only [readSign?_signPart, hhour, readPlaces?_twoPlaces,
    Option.bind_eq_bind, Option.bind_some]

/-- What the text of valid fields spells is these fields. -/
theorem read?_text {w : WrittenTime} (h : w.IsValid) : read? w.text.toList = some w := by
  have hfraction : ∀ ms ∈ w.fraction, ms ≤ 999 := fun ms hms => (h.fraction ms hms).2
  have htime : "T".toList = ['T'] := rfl
  have hcolon : ":".toList = [':'] := rfl
  have hoffset := readOffset?_append w.behind w.offsetHour h.offsetMinute []
  rw [List.append_nil] at hoffset
  unfold text
  simp only [String.toList_append, List.append_assoc, htime, hcolon, List.cons_append,
    List.nil_append]
  unfold read?
  simp only [readDate?_dateText h.date, readChar?_cons, readClock?_append h.hour h.minute h.second,
    readFraction?_fractionPart hfraction, hoffset, Option.bind_eq_bind, Option.bind_some,
    List.isEmpty_nil, if_true]

end WrittenTime

/-! ## Instants -/

namespace LocalTime

/-- The fields of a local time. -/
def written (l : LocalTime) : WrittenTime where
  date := l.date
  hour := l.hour
  minute := l.minute
  second := l.second
  fraction := if l.millisecond = 0 then none else some l.millisecond
  behind := decide (l.offset < 0)
  offsetHour := l.offset.natAbs / 60
  offsetMinute := l.offset.natAbs % 60

theorem text_written (l : LocalTime) :
    l.written.text = dateText l.date ++ "T" ++ timeText l ++ ":" ++ twoPlaces l.second ++
      fractionText l.millisecond ++ offsetText l.offset := by
  have hfraction : WrittenTime.fractionPart l.written.fraction = fractionText l.millisecond := by
    unfold written fractionText WrittenTime.fractionPart
    by_cases h : l.millisecond = 0
    · simp only [h, if_true]
    · simp only [h, if_false]
  unfold WrittenTime.text
  rw [hfraction]
  unfold timeText offsetText written WrittenTime.signPart
  simp only [String.append_assoc, decide_eq_true_eq]

theorem offset_written (l : LocalTime) : l.written.offset = l.offset := by
  unfold WrittenTime.offset written
  by_cases h : l.offset < 0
  · simp only [h, decide_true, if_true]
    omega
  · simp only [h, decide_false, Bool.false_eq_true, if_false]
    omega

theorem instant_written (l : LocalTime) : l.written.instant = l.instant := by
  have hfraction : l.written.fraction.getD 0 = l.millisecond := by
    unfold written
    dsimp only
    split <;> simp_all
  have hparts : l.msOfDay = l.hour * 3600000 + l.minute * 60000 + l.second * 1000 +
      l.millisecond := by
    unfold hour minute second millisecond
    omega
  unfold WrittenTime.instant instant msPerHour msPerMinute
  rw [hfraction, offset_written, hparts]
  show l.date.day * msPerDay + (l.hour : Int) * 3600000 + (l.minute : Int) * 60000 +
    (l.second : Int) * 1000 + _ - _ = (_ : Int)
  push_cast
  omega

theorem msOfDay_ofInstant_lt (zone : Zone) (t : Instant) :
    (ofInstant zone t).msOfDay < 86400000 := by
  unfold ofInstant msPerDay
  dsimp only
  omega

theorem instant_ofInstant (zone : Zone) (t : Instant) : (ofInstant zone t).instant = t := by
  have hms := Int.toNat_of_nonneg
    (Int.emod_nonneg (t + zone.offsetAt t * msPerMinute) (by decide : msPerDay ≠ 0))
  have hday := Int.ediv_mul_add_emod (t + zone.offsetAt t * msPerMinute) msPerDay
  unfold ofInstant instant
  dsimp only
  rw [Date.day_ofDay, hms, hday]
  exact Int.add_sub_cancel _ _

theorem isValid_date_ofInstant (zone : Zone) (t : Instant) : (ofInstant zone t).date.IsValid :=
  Date.isValid_ofDay _

theorem isValid_written_ofInstant (zone : Zone) (t : Instant) :
    (ofInstant zone t).written.IsValid where
  date := isValid_date_ofInstant zone t
  hour := by
    have := msOfDay_ofInstant_lt zone t
    show (ofInstant zone t).msOfDay / 3600000 ≤ 23
    omega
  minute := by
    show (ofInstant zone t).msOfDay / 60000 % 60 ≤ 59
    omega
  second := by
    show (ofInstant zone t).msOfDay / 1000 % 60 ≤ 59
    omega
  fraction := by
    intro ms hms
    unfold written millisecond at hms
    dsimp only at hms
    split at hms
    · cases hms
    · cases hms
      omega
  offsetMinute := by
    show _ % 60 ≤ 59
    omega

/-- Local time differs from universal time by whole minutes. -/
theorem millisecond_ofInstant (zone : Zone) (t : Instant) :
    ((ofInstant zone t).millisecond : Int) = t % 1000 := by
  unfold ofInstant millisecond msPerDay msPerMinute
  dsimp only
  omega

end LocalTime

theorem formatDate_of_isDatable {t : Instant} (h : t.natAbs ≤ maxInstant) (zone : Zone) :
    formatDate zone t = dateText (LocalTime.ofInstant zone t).date :=
  if_pos (decide_eq_true h)

theorem formatRfc3339_of_isDatable {t : Instant} (h : t.natAbs ≤ maxInstant) (zone : Zone) :
    formatRfc3339 zone t = (LocalTime.ofInstant zone t).written.text := by
  have hdatable : isDatable t = true := decide_eq_true h
  rw [formatRfc3339, if_pos hdatable, LocalTime.text_written]

/-- The fields that the text of an instant spells. -/
theorem read?_formatRfc3339 {t : Instant} (h : t.natAbs ≤ maxInstant) (zone : Zone) :
    WrittenTime.read? (formatRfc3339 zone t).toList =
      some (LocalTime.ofInstant zone t).written := by
  rw [formatRfc3339_of_isDatable h]
  exact WrittenTime.read?_text (LocalTime.isValid_written_ofInstant zone t)

theorem instant_written_ofInstant (zone : Zone) (t : Instant) :
    (LocalTime.ofInstant zone t).written.instant = t := by
  rw [LocalTime.instant_written, LocalTime.instant_ofInstant]

/-- **Written times.** The RFC 3339 text of an instant spells fields that are each in its range,
with a fraction exactly if the second is not full. Read back they give the offset of the zone and
the instant to the millisecond. So another instant has another text, whatever its zone. -/
theorem exists_written_formatRfc3339 {t : Instant} (h : t.natAbs ≤ maxInstant) (zone : Zone) :
    ∃ w : WrittenTime, formatRfc3339 zone t = w.text ∧ w.IsValid ∧
      WrittenTime.read? (formatRfc3339 zone t).toList = some w ∧
      (w.fraction = none ↔ t % 1000 = 0) ∧ w.offset = zone.offsetAt t ∧ w.instant = t ∧
      ∀ (zone' : Zone) (t' : Instant), t'.natAbs ≤ maxInstant →
        formatRfc3339 zone' t' = formatRfc3339 zone t → t' = t := by
  refine ⟨(LocalTime.ofInstant zone t).written, formatRfc3339_of_isDatable h zone,
    LocalTime.isValid_written_ofInstant zone t, read?_formatRfc3339 h zone, ?_,
    LocalTime.offset_written _, instant_written_ofInstant zone t, ?_⟩
  · have hms := LocalTime.millisecond_ofInstant zone t
    unfold LocalTime.written
    dsimp only
    split
    · next hzero =>
      rw [hzero] at hms
      exact iff_of_true rfl hms.symm
    · next hzero =>
      exact iff_of_false (Option.some_ne_none _) fun hfull =>
        hzero (Int.natCast_eq_zero.1 (hms.trans hfull))
  · intro zone' t' h' heq
    have hread := read?_formatRfc3339 h' zone'
    rw [heq, read?_formatRfc3339 h zone, Option.some.injEq] at hread
    rw [← instant_written_ofInstant zone' t', ← hread, instant_written_ofInstant]

/-- The end of the last second of the year before the year zero, an hour and a half behind. -/
theorem exists_written_newYear : (-62167213800001 : Int).natAbs ≤ maxInstant ∧
    formatRfc3339 (Zone.fixed (-90)) (-62167213800001) = "-1-12-31T23:59:59.999-01:30" ∧
    ∃ w : WrittenTime, w.text = "-1-12-31T23:59:59.999-01:30" ∧ w.instant = -62167213800001 := by
  have h : (-62167213800001 : Int).natAbs ≤ maxInstant := by decide
  have htext : formatRfc3339 (Zone.fixed (-90)) (-62167213800001) =
      "-1-12-31T23:59:59.999-01:30" := by decide +kernel
  obtain ⟨w, hw, -, -, -, -, hinstant, -⟩ := exists_written_formatRfc3339 h (Zone.fixed (-90))
  exact ⟨h, htext, w, hw.symm.trans htext, hinstant⟩

end PromptTemplate
