import PromptTemplate.Proofs.JobData.Memories
import PromptTemplate.Proofs.Number.Order
import PromptTemplate.Proofs.Time.WrittenTime
/-!
# The form of dates

Month, day, hour and minute of a written time have two digits each, but the year has as many as it
needs. So the text of an instant has the form of a date exactly in the years 1000 to 9999, and the
order of two texts is that of their instants where the years have the same number of digits
(`isDate_formatDate_iff`). The other years before 10000 miss the form and may be in the wrong order
(`not_isDate_formatDate_yearOne`).
-/

namespace PromptTemplate

open Number (intText natText natDigits SpellsIn)

theorem spellsIn_twoPlaces {n : Nat} (h : n < 100) : SpellsIn 2 (twoPlaces n) n :=
  Number.spellsIn_padLeft (by decide) h

namespace Date

theorem IsValid.spellsIn_month {date : Date} (h : date.IsValid) :
    SpellsIn 2 (twoPlaces date.month) date.month :=
  spellsIn_twoPlaces (by have := h.month_le; omega)

theorem IsValid.spellsIn_dayOfMonth {date : Date} (h : date.IsValid) :
    SpellsIn 2 (twoPlaces date.dayOfMonth) date.dayOfMonth := by
  have hle := h.day_le
  have hlength := monthLength_le date.year date.month
  exact spellsIn_twoPlaces (by omega)

end Date

theorem toList_dateText (date : Date) :
    (dateText date).toList = (intText date.year).toList ++
      '-' :: ((twoPlaces date.month).toList ++ '-' :: (twoPlaces date.dayOfMonth).toList) := by
  have hdash : "-".toList = ['-'] := rfl
  unfold dateText monthDayText
  simp only [String.toList_append, List.append_assoc, hdash, List.cons_append, List.nil_append]

/-! ## Form -/

theorem isDigit_of_spellsIn {places n : Nat} {s : String} (h : SpellsIn places s n) :
    ∀ c ∈ s.toList, c.isDigit = true :=
  fun c hc => (Number.isSome_digit?_iff c).1 (Number.isSome_digit?_of_digitsFrom? h.value c hc)

/-- Four digits are those of a number from 1000 to 9999. -/
theorem length_natDigits_eq_four_iff (n : Nat) :
    (natDigits n).length = 4 ↔ 1000 ≤ n ∧ n ≤ 9999 := by
  have hthree := Number.length_natDigits_le_iff (n := n) (by decide : 1 ≤ 3)
  have hfour := Number.length_natDigits_le_iff (n := n) (by decide : 1 ≤ 4)
  omega

theorem isDateText_dateText_iff {date : Date} (h : date.IsValid) :
    IsDateText (dateText date).toList ↔ 1000 ≤ date.year ∧ date.year ≤ 9999 := by
  have hwidth := length_natDigits_eq_four_iff date.year.natAbs
  rw [toList_dateText, Number.toList_intText]
  constructor
  · rintro ⟨year, month, day, heq, hlength, -, -, hdigits⟩
    have hyear : '-' ∉ year := fun hmem => absurd (hdigits '-' (by simp [hmem])) (by decide)
    -- The first dash ends the year, unless it is its sign.
    have hcut := congrArg (Text.cut? ['-']) heq
    rw [Text.cut?_singleton_append _ hyear] at hcut
    split at hcut
    · have hsign (cs : List Char) : Text.cut? ['-'] ('-' :: cs) = some ([], cs) :=
        Text.cut?_singleton_append cs List.not_mem_nil
      rw [List.singleton_append, List.cons_append, hsign] at hcut
      obtain ⟨rfl, -⟩ := Prod.mk.inj (Option.some.inj hcut)
      cases hlength
    · have hdash := Number.notMem_natDigits (c := '-') (by decide) date.year.natAbs
      rw [List.nil_append, Text.cut?_singleton_append _ hdash] at hcut
      obtain ⟨rfl, -⟩ := Prod.mk.inj (Option.some.inj hcut)
      omega
  · intro hyear
    have hfour := hwidth.2 (by omega)
    rw [if_neg (by omega), List.nil_append]
    refine ⟨_, _, _, rfl, hfour, h.spellsIn_month.length, h.spellsIn_dayOfMonth.length, ?_⟩
    intro c hc
    rw [List.mem_append, List.mem_append] at hc
    rcases hc with (hc | hc) | hc
    · have hnat := isDigit_of_spellsIn (Number.spellsIn_natText date.year.natAbs)
      rw [natText, String.toList_ofList] at hnat
      exact hnat c hc
    · exact isDigit_of_spellsIn h.spellsIn_month c hc
    · exact isDigit_of_spellsIn h.spellsIn_dayOfMonth c hc

/-- Two digits and two, with a colon between. -/
def IsClockText (cs : List Char) : Prop :=
  ∃ hour minute : List Char, cs = hour ++ ':' :: minute ∧ hour.length = 2 ∧ minute.length = 2 ∧
    ∀ c ∈ hour ++ minute, c.isDigit = true

namespace LocalTime

theorem spellsIn_hour (zone : Zone) (t : Instant) :
    SpellsIn 2 (twoPlaces (ofInstant zone t).hour) (ofInstant zone t).hour := by
  have hms := msOfDay_ofInstant_lt zone t
  refine spellsIn_twoPlaces ?_
  unfold hour
  omega

theorem spellsIn_minute (l : LocalTime) : SpellsIn 2 (twoPlaces l.minute) l.minute := by
  refine spellsIn_twoPlaces ?_
  unfold minute
  omega

theorem isClockText_timeText (zone : Zone) (t : Instant) :
    IsClockText (timeText (ofInstant zone t)).toList := by
  have hhour := spellsIn_hour zone t
  have hminute := (ofInstant zone t).spellsIn_minute
  have hcolon : ":".toList = [':'] := rfl
  unfold timeText
  rw [String.toList_append, String.toList_append, List.append_assoc, hcolon,
    List.singleton_append]
  refine ⟨_, _, rfl, hhour.length, hminute.length, fun c hc => ?_⟩
  rcases List.mem_append.1 hc with hc | hc
  · exact isDigit_of_spellsIn hhour c hc
  · exact isDigit_of_spellsIn hminute c hc

end LocalTime

/-! ## Order -/

/-- Two years from zero on that are written with the same number of digits. -/
structure YearsAlike (a b : Int) : Prop where
  left : 0 ≤ a
  right : 0 ≤ b
  width : (intText a).length = (intText b).length

theorem YearsAlike.lt_append_iff {a b : Int} (h : YearsAlike a b) (u v : Utf16) :
    Utf16.lt ((intText a : Utf16) ++ u) ((intText b : Utf16) ++ v) = true ↔
      a < b ∨ a = b ∧ Utf16.lt u v = true := by
  have hspells {z : Int} (hz : 0 ≤ z) : SpellsIn (intText z).length (intText z) z.natAbs := by
    refine ⟨String.length_toList, ?_⟩
    rw [intText, if_neg (by omega)]
    exact (Number.spellsIn_natText z.natAbs).value
  obtain ⟨ha, hb, hwidth⟩ := h
  have hleft := hspells ha
  rw [hwidth] at hleft
  have hlt : a.natAbs < b.natAbs ↔ a < b := by omega
  have heq : a.natAbs = b.natAbs ↔ a = b := by omega
  rw [hleft.lt_append_iff (hspells hb), hlt, heq]

theorem ofString_dateText (date : Date) : (dateText date : Utf16) =
    (intText date.year : Utf16) ++ (("-" : Utf16) ++ ((twoPlaces date.month : Utf16) ++
      (("-" : Utf16) ++ (twoPlaces date.dayOfMonth : Utf16)))) := by
  unfold dateText monthDayText
  simp only [Utf16.ofString_append, Utf16.append_assoc]

section

variable {a b : Date} (ha : a.IsValid) (hb : b.IsValid) (hyears : YearsAlike a.year b.year)

include ha hb hyears

theorem lt_dateText_append_iff (u v : Utf16) :
    Utf16.lt ((dateText a : Utf16) ++ u) ((dateText b : Utf16) ++ v) = true ↔
      a.Before b ∨ a = b ∧ Utf16.lt u v = true := by
  rw [ofString_dateText, ofString_dateText]
  simp only [Utf16.append_assoc]
  rw [hyears.lt_append_iff, Utf16.lt_append_left,
    ha.spellsIn_month.lt_append_iff hb.spellsIn_month, Utf16.lt_append_left,
    ha.spellsIn_dayOfMonth.lt_append_iff hb.spellsIn_dayOfMonth]
  obtain ⟨year, month, dayOfMonth⟩ := a
  obtain ⟨year', month', dayOfMonth'⟩ := b
  simp only [Date.Before, Date.mk.injEq]
  tauto

theorem lt_dateText_iff : Utf16.lt (dateText a) (dateText b) = true ↔ a.Before b := by
  have h := lt_dateText_append_iff ha hb hyears ⟨[]⟩ ⟨[]⟩
  rwa [Utf16.append_empty, Utf16.append_empty, Utf16.lt_self, eq_false Bool.false_ne_true,
    and_false, or_false] at h

end

namespace LocalTime

variable {l l' : LocalTime}

theorem lt_timeText_iff (hhour : SpellsIn 2 (twoPlaces l.hour) l.hour)
    (hhour' : SpellsIn 2 (twoPlaces l'.hour) l'.hour) :
    Utf16.lt (timeText l) (timeText l') = true ↔
      l.hour < l'.hour ∨ l.hour = l'.hour ∧ l.minute < l'.minute := by
  unfold timeText
  simp only [Utf16.ofString_append, Utf16.append_assoc]
  rw [hhour.lt_append_iff hhour', Utf16.lt_append_left,
    l.spellsIn_minute.lt_iff l'.spellsIn_minute]

/-- One local time shows an earlier date than another, or an earlier hour and minute of the same
date. -/
def ShowsBefore (l l' : LocalTime) : Prop :=
  l.date.Before l'.date ∨ l.date = l'.date ∧
    (l.hour < l'.hour ∨ l.hour = l'.hour ∧ l.minute < l'.minute)

theorem ShowsBefore.instant_lt (h : l.ShowsBefore l') (hl : l.date.IsValid)
    (hl' : l'.date.IsValid) (hms : l.msOfDay < 86400000) (hoffset : l.offset = l'.offset) :
    l.instant < l'.instant := by
  unfold instant msPerDay
  rw [hoffset]
  show (_ : Int) < _
  rcases h with hdate | ⟨hdate, htime⟩
  · have hday := hdate.day_lt hl hl'
    have hpos := Int.natCast_nonneg l'.msOfDay
    omega
  · have hms' : l.msOfDay < l'.msOfDay := by
      unfold hour minute at htime
      omega
    rw [hdate]
    omega

theorem ShowsBefore.lt {minutes : Int} {t t' : Instant}
    (h : (ofInstant (Zone.fixed minutes) t).ShowsBefore (ofInstant (Zone.fixed minutes) t')) :
    t < t' := by
  have hoffset : (ofInstant (Zone.fixed minutes) t).offset =
      (ofInstant (Zone.fixed minutes) t').offset := rfl
  have hlt := h.instant_lt (isValid_date_ofInstant _ t) (isValid_date_ofInstant _ t')
    (msOfDay_ofInstant_lt _ t) hoffset
  rwa [instant_ofInstant, instant_ofInstant] at hlt

end LocalTime

/-! ## Formats -/

section

variable {t : Instant} (h : t.natAbs ≤ maxInstant) (zone : Zone)

include h

theorem formatDateTime_of_isDatable : formatDateTime zone t =
    dateText (LocalTime.ofInstant zone t).date ++ " " ++ timeText (LocalTime.ofInstant zone t) :=
  if_pos (decide_eq_true h)

theorem formatRfc3339_eq : formatRfc3339 zone t = formatDate zone t ++ "T" ++
    (timeText (LocalTime.ofInstant zone t) ++ ":" ++
      twoPlaces (LocalTime.ofInstant zone t).second ++
      fractionText (LocalTime.ofInstant zone t).millisecond ++
      offsetText (LocalTime.ofInstant zone t).offset) := by
  rw [formatRfc3339_of_isDatable h, LocalTime.text_written, formatDate_of_isDatable h]
  simp only [String.append_assoc]

theorem isDate_formatDate_of_isDatable : (formatDate zone t : Utf16).IsDate ↔
    1000 ≤ (LocalTime.ofInstant zone t).date.year ∧
      (LocalTime.ofInstant zone t).date.year ≤ 9999 := by
  rw [← isDateText_dateText_iff (LocalTime.isValid_date_ofInstant _ _), ← isDateForm_text_iff,
    isDateForm_iff, formatDate_of_isDatable h, Utf16.text_ofString]

end

section

variable {minutes : Int} {t t' : Instant} (h : t.natAbs ≤ maxInstant) (h' : t'.natAbs ≤ maxInstant)
  (hyears : YearsAlike (LocalTime.ofInstant (Zone.fixed minutes) t).date.year
    (LocalTime.ofInstant (Zone.fixed minutes) t').date.year)

include h h' hyears

theorem lt_of_lt_formatDate (hlt : Utf16.lt (formatDate (Zone.fixed minutes) t)
    (formatDate (Zone.fixed minutes) t') = true) : t < t' := by
  have hdate := LocalTime.isValid_date_ofInstant (Zone.fixed minutes) t
  have hdate' := LocalTime.isValid_date_ofInstant (Zone.fixed minutes) t'
  rw [formatDate_of_isDatable h, formatDate_of_isDatable h',
    lt_dateText_iff hdate hdate' hyears] at hlt
  exact LocalTime.ShowsBefore.lt (.inl hlt)

theorem lt_of_lt_formatDateTime (hlt : Utf16.lt (formatDateTime (Zone.fixed minutes) t)
    (formatDateTime (Zone.fixed minutes) t') = true) : t < t' := by
  have hdate := LocalTime.isValid_date_ofInstant (Zone.fixed minutes) t
  have hdate' := LocalTime.isValid_date_ofInstant (Zone.fixed minutes) t'
  have hhour := LocalTime.spellsIn_hour (Zone.fixed minutes) t
  have hhour' := LocalTime.spellsIn_hour (Zone.fixed minutes) t'
  rw [formatDateTime_of_isDatable h, formatDateTime_of_isDatable h'] at hlt
  simp only [Utf16.ofString_append, Utf16.append_assoc] at hlt
  rw [lt_dateText_append_iff hdate hdate' hyears, Utf16.lt_append_left,
    LocalTime.lt_timeText_iff hhour hhour'] at hlt
  exact LocalTime.ShowsBefore.lt hlt

end

/-- **The form of dates.** The date of an instant has four digits, two and two exactly if its year
is one from 1000 to 9999. The date and time is the date with the clock behind it, and the RFC 3339
text begins with the date. In a zone of one offset the texts of two instants are never in another
order than the instants, if the years have the same number of digits. -/
theorem isDate_formatDate_iff {t : Instant} (h : t.natAbs ≤ maxInstant) (minutes : Int) :
    let zone := Zone.fixed minutes
    let year (t : Instant) := (LocalTime.ofInstant zone t).date.year
    ((formatDate zone t : Utf16).IsDate ↔ 1000 ≤ year t ∧ year t ≤ 9999) ∧
      (∃ clock : String, IsClockText clock.toList ∧
        formatDateTime zone t = formatDate zone t ++ " " ++ clock) ∧
      (∃ rest : String, formatRfc3339 zone t = formatDate zone t ++ "T" ++ rest) ∧
      ∀ t' : Instant, t'.natAbs ≤ maxInstant → YearsAlike (year t) (year t') →
        (Utf16.lt (formatDate zone t) (formatDate zone t') = true → t < t') ∧
          (Utf16.lt (formatDateTime zone t) (formatDateTime zone t') = true → t < t') := by
  intro zone year
  refine ⟨isDate_formatDate_of_isDatable h zone, ⟨_, LocalTime.isClockText_timeText zone t, ?_⟩,
    ⟨_, formatRfc3339_eq h zone⟩, ?_⟩
  · rw [formatDateTime_of_isDatable h, formatDate_of_isDatable h]
  · intro t' h' hyears
    exact ⟨lt_of_lt_formatDate h h' hyears, lt_of_lt_formatDateTime h h' hyears⟩

/-- The first minutes of the years 1000 and 1001, an hour and a half ahead. -/
theorem isDate_formatDate_newYears :
    let zone := Zone.fixed 90
    let t : Instant := -30610229400000
    let t' : Instant := -30578693400000
    t.natAbs ≤ maxInstant ∧ t'.natAbs ≤ maxInstant ∧ (formatDate zone t : Utf16).IsDate ∧
      Utf16.lt (formatDateTime zone t) (formatDateTime zone t') = true ∧ t < t' := by
  intro zone t t'
  have h : t.natAbs ≤ maxInstant := by decide
  have h' : t'.natAbs ≤ maxInstant := by decide
  have hlt : Utf16.lt (formatDateTime zone t) (formatDateTime zone t') = true := by decide +kernel
  obtain ⟨hdate, -, -, horder⟩ := isDate_formatDate_iff h 90
  have hinstant := horder t' h' ⟨by decide +kernel, by decide +kernel, by decide +kernel⟩
  exact ⟨h, h', hdate.2 (by decide +kernel), hlt, hinstant.2 hlt⟩

/-- The date of the first day of the year one has one digit for the year, and that of the first day
of the year 1000 stands before that of the day before. -/
theorem not_isDate_formatDate_yearOne :
    (-62135596800000 : Int).natAbs ≤ maxInstant ∧
    (LocalTime.ofInstant Zone.utc (-62135596800000)).date.year = 1 ∧
    formatDate Zone.utc (-62135596800000) = "1-01-01" ∧
    ¬ (formatDate Zone.utc (-62135596800000) : Utf16).IsDate ∧
    Utf16.lt (formatDate Zone.utc (-30610224000000)) (formatDate Zone.utc (-30610224000001)) =
      true := by
  exact ⟨by decide, by decide +kernel, by decide +kernel, by decide +kernel, by decide +kernel⟩

end PromptTemplate
