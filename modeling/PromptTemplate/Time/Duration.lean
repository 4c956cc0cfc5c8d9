import PromptTemplate.TemplateError
import PromptTemplate.Text.Units
import PromptTemplate.Time.Zone
/-!
# Durations

A duration text is an integer text followed by a unit: `d` for a day, which is always 24 hours,
`h` for an hour, `m` for a minute. The unit is the last sixteen-bit unit of the text. The number of
milliseconds is rounded as numbers are and must then be safe.
-/

namespace PromptTemplate

open Text (cutLastUnit?)

/-- The milliseconds of a unit. -/
def unitMs? (unit : Char) : Option Int :=
  if unit = 'd' then some msPerDay
  else if unit = 'h' then some msPerHour
  else if unit = 'm' then some msPerMinute
  else none

/-- The wording for a faulty duration text with the given number and unit. -/
def DurationFault.message (input number unit : String) : DurationFault → String
  | empty => "empty duration"
  | .number => "invalid duration number: '" ++ number ++ "'"
  | .unit => "unknown duration unit: '" ++ unit ++ "'"
  | range => "duration out of range: '" ++ input ++ "'"

/-- The milliseconds that a duration text stands for. -/
def parseDuration (input : List Char) : Except TemplateError Int :=
  let text := String.ofList input
  let fail (number : List Char) (unit : Char) (fault : DurationFault) :=
    Except.error (.invalidDuration text fault
      (fault.message text (String.ofList number) (String.singleton unit)))
  match cutLastUnit? input with
  | none => fail [] ' ' .empty
  | some (number, unit) =>
    match Number.signed? number with
    | none => fail number unit .number
    | some amount =>
      match unitMs? unit with
      | none => fail number unit .unit
      | some ms =>
        match Number.safe? (amount * ms) with
        | none => fail number unit .range
        | some total => .ok total

end PromptTemplate
