import Mathlib.Tactic.SplitIfs
import PromptTemplate.Proofs.Number.Rounding
import PromptTemplate.Proofs.Outcome
import PromptTemplate.Resolve
/-!
# Offsets of dates

A duration is a whole number of minutes and safe, so that the difference of two durations is even
and below `2 ^ 54`. Such a number is a double, and the offset of a date tag is exact although it is
rounded twice. The instant that the offset leads to may not be a double; but then it is far out of
the range of dates, and rounding does not bring it back (`isDatable_round`). So a date tag shows the
exact instant if that can be dated, and fails if not (`resolveTag_of_writes`).
-/

namespace PromptTemplate

open Text (cutLastUnit?)

/-! ## Durations -/

/-- The milliseconds of a duration text: the exact product of its number and its unit, if that is
safe. -/
inductive IsDurationMs (text : List Char) : Int → Prop where
  | mk {number : List Char} {unit : Char} {amount ms : Int}
    (hcut : cutLastUnit? text = some (number, unit)) (hamount : Number.signed? number = some amount)
    (hunit : unitMs? unit = some ms) (hsafe : (amount * ms).natAbs ≤ Number.maxSafe) :
    IsDurationMs text (amount * ms)

/-- The milliseconds of a duration param: zero if there is none, else those of its text with the
loop variable in it. -/
inductive IsParamMs (key : String) (params : Params) (vars : LoopVars) : Int → Prop where
  | absent (h : params.get? key = none) : IsParamMs key params vars 0
  | present {value text : String} {ms : Int} (hget : params.get? key = some value)
    (htext : interpolate value vars = .ok text) (hms : IsDurationMs text.toList ms) :
    IsParamMs key params vars ms

theorem parseDuration_eq_ok_iff {text : List Char} {ms : Int} :
    parseDuration text = .ok ms ↔ IsDurationMs text ms := by
  unfold parseDuration
  constructor
  · intro h
    dsimp only at h
    split at h
    · cases h
    · next number unit hcut =>
      split at h
      · cases h
      · next amount hamount =>
        split at h
        · cases h
        · next factor hunit =>
          split at h
          · cases h
          · next total htotal =>
            cases h
            obtain ⟨rfl, hsafe⟩ := Number.safe?_eq_some_iff.1 htotal
            exact ⟨hcut, hamount, hunit, hsafe⟩
  · rintro ⟨hcut, hamount, hunit, hsafe⟩
    have htotal := Number.safe?_eq_some_iff.2 ⟨rfl, hsafe⟩
    simp only [hcut, hamount, hunit, htotal]

theorem paramDuration_eq_ok_iff {key : String} {params : Params} {vars : LoopVars} {ms : Int} :
    paramDuration key params vars = .ok ms ↔ IsParamMs key params vars ms := by
  unfold paramDuration
  constructor
  · intro h
    split at h
    · next hget =>
      cases h
      exact .absent hget
    · next value hget =>
      obtain ⟨text, htext, hparse⟩ := exists_of_bind_eq_ok h
      exact .present hget htext (parseDuration_eq_ok_iff.1 hparse)
  · rintro (hget | ⟨hget, htext, hms⟩)
    · rw [hget]
    · rw [hget]
      dsimp only
      rw [htext]
      exact parseDuration_eq_ok_iff.2 hms

theorem minute_dvd_of_unitMs? {unit : Char} {ms : Int} (h : unitMs? unit = some ms) :
    60000 ∣ ms := by
  unfold unitMs? at h
  split_ifs at h <;> cases h <;> decide

namespace IsParamMs

variable {key : String} {params : Params} {vars : LoopVars} {ms : Int}

theorem minute_dvd (h : IsParamMs key params vars ms) : 60000 ∣ ms := by
  cases h with
  | absent => exact Int.dvd_zero _
  | present hget htext hms =>
    obtain ⟨hcut, hamount, hunit, hsafe⟩ := hms
    exact Int.dvd_mul_of_dvd_right (minute_dvd_of_unitMs? hunit)

theorem natAbs_lt (h : IsParamMs key params vars ms) : ms.natAbs < 2 ^ 53 := by
  cases h with
  | absent => decide
  | present hget htext hms =>
    obtain ⟨hcut, hamount, hunit, hsafe⟩ := hms
    unfold Number.maxSafe Number.significandEnd at hsafe
    omega

end IsParamMs

/-! ## Offsets -/

/-- A difference of two durations is even, so that it needs one bit less than it has. -/
theorem isDouble_sub {a b : Int} (ha : a.natAbs < 2 ^ 53) (hb : b.natAbs < 2 ^ 53)
    (hdvd : 60000 ∣ b - a) : Number.IsDouble (b - a).natAbs := by
  refine ⟨(b - a).natAbs / 2, 1, ?_, ?_⟩
  · unfold Number.significandEnd
    omega
  · omega

/-- Neither of the two roundings of an offset changes anything. -/
theorem dateOffset_eq_sub {params : Params} {vars : LoopVars} {a b : Int}
    (ha : IsParamMs "minus" params vars a) (hb : IsParamMs "plus" params vars b) :
    dateOffset params vars = .ok (b - a) := by
  have hneg : Number.round (0 - a) = -a := by
    rw [Int.zero_sub]
    refine Number.round_eq_self ?_
    rw [Int.natAbs_neg]
    exact ha.natAbs_lt
  have hsum : Number.round (-a + b) = b - a := by
    have h := Number.round_of_isDouble
      (isDouble_sub ha.natAbs_lt hb.natAbs_lt (Int.dvd_sub hb.minute_dvd ha.minute_dvd))
    rw [show -a + b = b - a by omega]
    exact h
  unfold dateOffset
  rw [paramDuration_eq_ok_iff.2 ha, paramDuration_eq_ok_iff.2 hb]
  show Except.ok (Number.round (Number.round (0 - a) + b)) = _
  rw [hneg, hsum]

section

variable {params : Params} {vars : LoopVars} {e : TemplateError}

theorem dateOffset_of_minus_error (h : paramDuration "minus" params vars = .error e) :
    dateOffset params vars = .error e := by
  rw [dateOffset, h]
  rfl

theorem dateOffset_of_plus_error {a : Int} (h : paramDuration "minus" params vars = .ok a)
    (h' : paramDuration "plus" params vars = .error e) : dateOffset params vars = .error e := by
  rw [dateOffset, h, h']
  rfl

end

/-! ## Instants -/

theorem isDatable_iff {t : Instant} : isDatable t = true ↔ t.natAbs ≤ maxInstant := by
  unfold isDatable
  exact decide_eq_true_iff

theorem round_of_isDatable {t : Instant} (h : isDatable t = true) : Number.round t = t := by
  have := isDatable_iff.1 h
  unfold maxInstant at this
  refine Number.round_eq_self ?_
  unfold Number.significandEnd
  omega

/-- Rounding leads no instant over the limit of dates, to neither side. -/
theorem isDatable_round (t : Instant) : isDatable (Number.round t) = isDatable t := by
  by_cases h : isDatable t = true
  · rw [round_of_isDatable h]
  · -- The first instant beyond the limit is a double.
    have hfirst : Number.IsDouble (maxInstant + 1) := Number.isDouble_of_lt (by decide)
    have hbeyond := hfirst.le_roundNat (n := t.natAbs) (by rw [isDatable_iff] at h; omega)
    rw [← Number.natAbs_round] at hbeyond
    have hround : ¬ isDatable (Number.round t) = true := by
      rw [isDatable_iff]
      omega
    rw [Bool.eq_false_iff.2 h, Bool.eq_false_iff.2 hround]

theorem movedInstant_of_offset {params : Params} {vars : LoopVars} {clock : Clock} {offset : Int}
    (hnow : isDatable clock.now = true) (hoffset : dateOffset params vars = .ok offset) :
    movedInstant params vars clock =
      if isDatable (clock.now + offset) then .ok (clock.now + offset)
      else .error (.dateOutOfRange offset) := by
  unfold movedInstant
  rw [hoffset]
  show (if isDatable clock.now && isDatable (Number.round (clock.now + offset)) then _ else _) = _
  rw [hnow, isDatable_round, Bool.true_and]
  split
  · next h => rw [round_of_isDatable h]
  · rfl

/-! ## Tags -/

/-- The tag shows an instant that its params can move, and this is how it writes it. -/
inductive Tag.Writes (tag : Tag) : (Zone → Instant → String) → Prop where
  | date (h : tag.name = "date") : Writes tag formatDate
  | datetime (h : tag.name = "datetime") : Writes tag formatDateTime

theorem Tag.Writes.resolveTag_eq {tag : Tag} {format : Zone → Instant → String}
    (h : tag.Writes format) (context : Context) (clock : Clock) :
    resolveTag tag context clock = (do
      let t ← movedInstant tag.params context.loopVars clock
      .ok (format clock.zone t)) := by
  have hdate : Reference.ofName "date" = .builtin .date := by decide
  have hdatetime : Reference.ofName "datetime" = .builtin .datetime := by decide
  unfold resolveTag
  cases h with
  | date h =>
    rw [h, hdate]
    rfl
  | datetime h =>
    rw [h, hdatetime]
    rfl

section

variable {tag : Tag} {format : Zone → Instant → String} (htag : tag.Writes format)
  (context : Context)

include htag

theorem Tag.Writes.resolveTag_of_offset_error {e : TemplateError} (clock : Clock)
    (h : dateOffset tag.params context.loopVars = .error e) :
    resolveTag tag context clock = .error e := by
  rw [htag.resolveTag_eq, movedInstant, h]
  rfl

theorem Tag.Writes.resolveTag_of_offset {clock : Clock} {offset : Int}
    (hnow : isDatable clock.now = true)
    (h : dateOffset tag.params context.loopVars = .ok offset) :
    resolveTag tag context clock =
      if isDatable (clock.now + offset) then .ok (format clock.zone (clock.now + offset))
      else .error (.dateOutOfRange offset) := by
  rw [htag.resolveTag_eq, movedInstant_of_offset hnow h]
  split <;> rfl

/-- **Date tags.** The two durations are worked out in turn, and the first failure is the tag's own.
If there is none, their exact difference is the offset, rounded or not, and the tag shows the
exact instant it leads to if that can be dated. -/
theorem resolveTag_of_writes {clock : Clock} (hnow : clock.now.natAbs ≤ maxInstant) :
    let minus := paramDuration "minus" tag.params context.loopVars
    let plus := paramDuration "plus" tag.params context.loopVars
    let offset := dateOffset tag.params context.loopVars
    let outcome := resolveTag tag context clock
    (∀ e, minus = .error e → offset = .error e ∧ outcome = .error e) ∧
    (∀ a e, minus = .ok a → plus = .error e → offset = .error e ∧ outcome = .error e) ∧
    ∀ a b, minus = .ok a → plus = .ok b →
      IsParamMs "minus" tag.params context.loopVars a ∧
      IsParamMs "plus" tag.params context.loopVars b ∧
      60000 ∣ b - a ∧ (b - a).natAbs < 2 ^ 54 ∧ Number.IsDouble (b - a).natAbs ∧
      offset = .ok (b - a) ∧
      if (clock.now + (b - a)).natAbs ≤ maxInstant then
        outcome = .ok (format clock.zone (clock.now + (b - a)))
      else
        outcome = .error (.dateOutOfRange (b - a)) ∧
          (TemplateError.dateOutOfRange (b - a)).kind = .invalidDurationFormat := by
  refine ⟨?_, ?_, ?_⟩
  · intro e he
    have hoffset := dateOffset_of_minus_error he
    exact ⟨hoffset, htag.resolveTag_of_offset_error context clock hoffset⟩
  · intro a e ha he
    have hoffset := dateOffset_of_plus_error ha he
    exact ⟨hoffset, htag.resolveTag_of_offset_error context clock hoffset⟩
  · intro a b hminus hplus
    have ha := paramDuration_eq_ok_iff.1 hminus
    have hb := paramDuration_eq_ok_iff.1 hplus
    have hoffset := dateOffset_eq_sub ha hb
    have hdvd := Int.dvd_sub hb.minute_dvd ha.minute_dvd
    have hlt := ha.natAbs_lt
    have hlt' := hb.natAbs_lt
    refine ⟨ha, hb, hdvd, by omega, isDouble_sub hlt hlt' hdvd, hoffset, ?_⟩
    rw [htag.resolveTag_of_offset context (isDatable_iff.2 hnow) hoffset]
    simp only [isDatable_iff]
    split
    · rfl
    · exact ⟨rfl, rfl⟩

end

/-- A date tag with the two params. -/
def offsetTag (name minus plus : String) : Tag :=
  ⟨name, Table.ofList [("minus", minus), ("plus", plus)], none⟩

/-- The sum of the clock and the greatest offset is no double, and the tag still fails; two great
durations that differ by a day lead one day back. -/
theorem resolveTag_offsetTag :
    let loop : Context := { loopVars := Table.ofList [("i", .index 104249990)] }
    let far := offsetTag "datetime" "-104249991d" "104249991d"
    let back := offsetTag "date" "104249991d" "i\"d\""
    (far.Writes formatDateTime ∧ (8639999999999999 : Int).natAbs ≤ maxInstant ∧
      Number.round (8639999999999999 + 18014398444800000) ≠ 8639999999999999 + 18014398444800000 ∧
      resolveTag far loop ⟨8639999999999999, Zone.utc⟩ =
        .error (.dateOutOfRange 18014398444800000)) ∧
    back.Writes formatDate ∧ (0 : Int).natAbs ≤ maxInstant ∧
      resolveTag back loop ⟨0, Zone.utc⟩ = .ok ("1969-12-31" : Utf16) := by
  intro loop far back
  have hfar : far.Writes formatDateTime := .datetime rfl
  have hback : back.Writes formatDate := .date rfl
  have hms : paramDuration "minus" far.params loop.loopVars = .ok (-9007199222400000) ∧
      paramDuration "plus" far.params loop.loopVars = .ok 9007199222400000 :=
    ⟨eq_ok_of_toOption (by decide +kernel), eq_ok_of_toOption (by decide +kernel)⟩
  have hms' : paramDuration "minus" back.params loop.loopVars = .ok 9007199222400000 ∧
      paramDuration "plus" back.params loop.loopVars = .ok 9007199136000000 :=
    ⟨eq_ok_of_toOption (by decide +kernel), eq_ok_of_toOption (by decide +kernel)⟩
  refine ⟨⟨hfar, by decide, by decide +kernel, ?_⟩, hback, by decide, ?_⟩
  · have h := (@resolveTag_of_writes far _ hfar loop ⟨8639999999999999, Zone.utc⟩
      (by decide)).2.2 _ _ hms.1 hms.2
    exact h.2.2.2.2.2.2.1
  · have h := (@resolveTag_of_writes back _ hback loop ⟨0, Zone.utc⟩ (by decide)).2.2 _ _
      hms'.1 hms'.2
    have htext := h.2.2.2.2.2.2
    rw [if_pos (by decide)] at htext
    exact htext.trans (eq_ok_of_toOption (by decide +kernel))

end PromptTemplate
