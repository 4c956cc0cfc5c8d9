import PromptTemplate.Proofs.Number.IntegerText
import PromptTemplate.Proofs.Text.Utf16
import PromptTemplate.Proofs.Time.Offset
/-!
# What durations are read from

A duration is a safe integer and the letter of a unit, and is worth their product if that is safe
too (`IsDurationText`). In any other text there is something wrong with the number, else with the
unit, else with the product (`DurationFault.Spoils`). The number ends before the last sixteen-bit
unit, which may be the second half of a character.

Integers and products are rounded before they are found to be safe, and it makes no difference: what
is read is exact, however long the text is (`numbers_read_exactly`).
-/

namespace PromptTemplate

open Number (IsIntegerText IsNaturalText)
open Text (cutLastUnit?)

/-- The text is an optional sign and digits, and the integer is safe. -/
structure IsAmount (text : List Char) (amount : Int) : Prop where
  text : IsIntegerText text amount
  safe : amount.natAbs ≤ 2 ^ 53 - 1

/-- The letters of a day, an hour and a minute, with their milliseconds. -/
inductive IsUnitLetter : Char → Int → Prop
  | day : IsUnitLetter 'd' 86400000
  | hour : IsUnitLetter 'h' 3600000
  | minute : IsUnitLetter 'm' 60000

/-- The text is an integer and a unit, and this is their product. -/
inductive IsDurationText : List Char → Int → Prop
  | mk {number : List Char} {unit : Char} {amount ms : Int} (hamount : IsAmount number amount)
    (hunit : IsUnitLetter unit ms) (hsafe : (amount * ms).natAbs ≤ 2 ^ 53 - 1) :
    IsDurationText (number ++ [unit]) (amount * ms)

/-- What stands before the last sixteen-bit unit of the text is an integer. -/
def HasAmount (text : List Char) (amount : Int) : Prop :=
  ∃ number, (Utf16.ofChars text).dropLast = Utf16.ofChars number ∧ IsAmount number amount

/-- The last sixteen-bit unit of the text is the letter of a unit. -/
def HasUnit (text : List Char) (ms : Int) : Prop :=
  ∃ unit, (Utf16.ofChars text).lastUnit = Utf16.ofChars [unit] ∧ IsUnitLetter unit ms

/-- What is wrong with a text that is no duration. A faulty number counts before a faulty unit. -/
inductive DurationFault.Spoils (text : List Char) : DurationFault → Prop
  | empty (hnil : text = []) : Spoils text .empty
  | number (hne : text ≠ []) (hnone : ∀ amount, ¬ HasAmount text amount) : Spoils text .number
  | unit {amount : Int} (hne : text ≠ []) (hamount : HasAmount text amount)
    (hnone : ∀ ms, ¬ HasUnit text ms) : Spoils text .unit
  | range {amount ms : Int} (hne : text ≠ []) (hamount : HasAmount text amount)
    (hunit : HasUnit text ms) (hlarge : ¬ (amount * ms).natAbs ≤ 2 ^ 53 - 1) :
    Spoils text .range

/-- The error for a faulty duration text. -/
def durationError (text : List Char) (fault : DurationFault) : TemplateError :=
  let units := Utf16.ofChars text
  .invalidDuration (String.ofList text) fault
    (fault.message (String.ofList text) units.dropLast.text units.lastUnit.text)

/-- What comes of a text that is read as a duration. -/
inductive DurationRead (text : List Char) : Except TemplateError Int → Prop
  | ok {ms : Int} (h : IsDurationText text ms) : DurationRead text (.ok ms)
  | fault {fault : DurationFault} (h : fault.Spoils text) :
    DurationRead text (.error (durationError text fault))

/-! ## Numbers and units -/

theorem signed?_eq_some_iff_isAmount {number : List Char} {amount : Int} :
    Number.signed? number = some amount ↔ IsAmount number amount := by
  rw [Number.signed?_eq_some_iff]
  exact ⟨fun h => ⟨h.1, h.2⟩, fun h => ⟨h.text, h.safe⟩⟩

theorem unitMs?_eq_some_iff {unit : Char} {ms : Int} :
    unitMs? unit = some ms ↔ IsUnitLetter unit ms := by
  constructor
  · intro h
    unfold unitMs? at h
    split_ifs at h with hday hhour hminute
    · cases h
      exact hday ▸ .day
    · cases h
      exact hhour ▸ .hour
    · cases h
      exact hminute ▸ .minute
  · rintro (_ | _ | _) <;> rfl

theorem IsAmount.replacement_notMem {number : List Char} {amount : Int}
    (h : IsAmount number amount) : Text.replacement ∉ number :=
  h.text.isNumeral.notMem (by decide) (by decide) (by decide)

theorem IsUnitLetter.replacement_notMem {unit : Char} {ms : Int} (h : IsUnitLetter unit ms) :
    Text.replacement ∉ [unit] := by
  cases h <;> decide

theorem exists_cutLastUnit? {text : List Char} (h : text ≠ []) :
    ∃ number unit, cutLastUnit? text = some (number, unit) := by
  obtain ⟨⟨number, unit⟩, hcut⟩ :=
    Option.ne_none_iff_exists'.1 (mt (Text.cutLastUnit?_eq_none_iff text).1 h)
  exact ⟨number, unit, hcut⟩

section

variable {text number : List Char} {unit : Char}
  (hcut : cutLastUnit? text = some (number, unit))

include hcut

/-- Half a character is no digit, so the number is that of the characters before the cut. -/
theorem hasAmount_iff {amount : Int} :
    HasAmount text amount ↔ Number.signed? number = some amount := by
  have hshown := (Utf16.toList_text_of_cutLastUnit? hcut).1
  rw [signed?_eq_some_iff_isAmount]
  constructor
  · rintro ⟨number', hunits, h⟩
    rw [hunits, Utf16.toList_text_ofChars] at hshown
    exact hshown ▸ h
  · intro h
    exact ⟨number, (Utf16.toList_text_eq_iff h.replacement_notMem).1 hshown, h⟩

theorem hasUnit_iff {ms : Int} : HasUnit text ms ↔ unitMs? unit = some ms := by
  have hshown := (Utf16.toList_text_of_cutLastUnit? hcut).2
  rw [unitMs?_eq_some_iff]
  constructor
  · rintro ⟨unit', hunits, h⟩
    rw [hunits, Utf16.toList_text_ofChars] at hshown
    cases hshown
    exact h
  · intro h
    exact ⟨unit, (Utf16.toList_text_eq_iff h.replacement_notMem).1 hshown, h⟩

theorem durationError_eq (fault : DurationFault) :
    durationError text fault = .invalidDuration (String.ofList text) fault
      (fault.message (String.ofList text) (String.ofList number) (String.singleton unit)) := by
  obtain ⟨hfront, hlast⟩ := Utf16.toList_text_of_cutLastUnit? hcut
  have hnumber : (Utf16.ofChars text).dropLast.text = String.ofList number := by
    rw [← hfront, String.ofList_toList]
  have hunit : (Utf16.ofChars text).lastUnit.text = String.singleton unit := by
    rw [String.singleton_eq_ofList, ← hlast, String.ofList_toList]
  rw [durationError, hnumber, hunit]

end

/-! ## Durations -/

theorem IsDurationText.isDurationMs {text : List Char} {ms : Int} (h : IsDurationText text ms) :
    IsDurationMs text ms := by
  obtain @⟨number, unit, amount, ms, hamount, hunit, hsafe⟩ := h
  have hcut : cutLastUnit? (number ++ [unit]) = some (number, unit) := by
    rw [Text.cutLastUnit?_concat]
    cases hunit <;> rfl
  exact .mk hcut (signed?_eq_some_iff_isAmount.2 hamount) (unitMs?_eq_some_iff.2 hunit) hsafe

/-- What stands before the last unit and the last unit make the whole text. -/
theorem HasAmount.isDurationText {text : List Char} {amount ms : Int} (h : HasAmount text amount)
    (hunit : HasUnit text ms) (hsafe : (amount * ms).natAbs ≤ 2 ^ 53 - 1) :
    IsDurationText text (amount * ms) := by
  obtain ⟨number, hfront, hamount⟩ := h
  obtain ⟨unit, hlast, hunit⟩ := hunit
  have htext : text = number ++ [unit] := by
    refine Utf16.ofChars_injective ?_
    rw [← Utf16.dropLast_append_lastUnit (Utf16.ofChars text), hfront, hlast,
      Utf16.ofChars_append]
  rw [htext]
  exact .mk hamount hunit hsafe

theorem exists_durationRead (text : List Char) : ∃ outcome, DurationRead text outcome := by
  by_cases hnil : text = []
  · exact ⟨_, .fault (.empty hnil)⟩
  by_cases hamount : ∃ amount, HasAmount text amount
  · obtain ⟨amount, hamount⟩ := hamount
    by_cases hunit : ∃ ms, HasUnit text ms
    · obtain ⟨ms, hunit⟩ := hunit
      by_cases hsafe : (amount * ms).natAbs ≤ 2 ^ 53 - 1
      · exact ⟨_, .ok (hamount.isDurationText hunit hsafe)⟩
      · exact ⟨_, .fault (.range hnil hamount hunit hsafe)⟩
    · exact ⟨_, .fault (.unit hnil hamount fun ms h => hunit ⟨ms, h⟩)⟩
  · exact ⟨_, .fault (.number hnil fun amount h => hamount ⟨amount, h⟩)⟩

theorem DurationFault.Spoils.parseDuration_eq {text : List Char} {fault : DurationFault}
    (h : fault.Spoils text) : parseDuration text = .error (durationError text fault) := by
  cases h with
  | empty hnil =>
    rw [hnil]
    rfl
  | number hne hnone =>
    obtain ⟨number, unit, hcut⟩ := exists_cutLastUnit? hne
    have hsigned : Number.signed? number = none :=
      Option.eq_none_iff_forall_ne_some.2 fun amount h => hnone amount ((hasAmount_iff hcut).2 h)
    rw [durationError_eq hcut, parseDuration]
    simp only [hcut, hsigned]
  | unit hne hamount hnone =>
    obtain ⟨number, unit, hcut⟩ := exists_cutLastUnit? hne
    have hms : unitMs? unit = none :=
      Option.eq_none_iff_forall_ne_some.2 fun ms h => hnone ms ((hasUnit_iff hcut).2 h)
    rw [durationError_eq hcut, parseDuration]
    simp only [hcut, (hasAmount_iff hcut).1 hamount, hms]
  | @range amount ms hne hamount hunit hlarge =>
    obtain ⟨number, unit, hcut⟩ := exists_cutLastUnit? hne
    have hunsafe : Number.safe? (amount * ms) = none :=
      Option.eq_none_iff_forall_ne_some.2 fun total h =>
        hlarge (Number.safe?_eq_some_iff.1 h).2
    rw [durationError_eq hcut, parseDuration]
    simp only [hcut, (hasAmount_iff hcut).1 hamount, (hasUnit_iff hcut).1 hunit, hunsafe]

theorem DurationRead.parseDuration_eq {text : List Char} {outcome : Except TemplateError Int}
    (h : DurationRead text outcome) : parseDuration text = outcome := by
  cases h with
  | ok h => exact parseDuration_eq_ok_iff.2 h.isDurationMs
  | fault h => exact h.parseDuration_eq

/-! ## Exact numbers -/

theorem signed?_intText_eq (n : Int) :
    Number.signed? (Number.intText n).toList = if n.natAbs ≤ 2 ^ 53 - 1 then some n else none := by
  split
  · next hsafe => exact Number.signed?_intText hsafe
  · next hlarge =>
    refine Option.eq_none_iff_forall_ne_some.2 fun z h => ?_
    obtain ⟨htext, hsafe⟩ := Number.signed?_eq_some_iff.1 h
    rw [htext.unique (Number.isIntegerText_intText n)] at hsafe
    exact hlarge hsafe

/-- **Exact numbers.** An integer text of any length is read as the integer that it denotes if that
is safe, and not at all if it is not; so is the decimal text of an integer. A duration text is read
as the exact product of its number and its unit, and every other text fails for the first fault that
it has. -/
theorem numbers_read_exactly :
    (∀ text n, Number.signed? text = some n ↔ IsIntegerText text n ∧ n.natAbs ≤ 2 ^ 53 - 1) ∧
      (∀ text n, Number.unsigned? text = some n ↔ IsNaturalText text n ∧ n ≤ 2 ^ 53 - 1) ∧
      (∀ n : Int, Number.signed? (Number.intText n).toList =
        if n.natAbs ≤ 2 ^ 53 - 1 then some n else none) ∧
      ∀ text outcome, parseDuration text = outcome ↔ DurationRead text outcome :=
  ⟨fun _ _ => Number.signed?_eq_some_iff, fun _ _ => Number.unsigned?_eq_some_iff,
    signed?_intText_eq, fun text => eq_iff_of_exists (exists_durationRead text)
      fun _ h => h.parseDuration_eq⟩

/-- The first number that is not safe is exact all the same, and the one behind it is rounded to it;
neither is read. -/
example : Number.signed? "9007199254740992".toList = none ∧
    Number.signed? "9007199254740993".toList = none ∧
    Number.signed? "-0009007199254740991".toList = some (-9007199254740991) := by decide +kernel

end PromptTemplate
