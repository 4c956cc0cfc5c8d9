import PromptTemplate.Failure
import PromptTemplate.Text.Encoding
import PromptTemplate.Time.Stamp
/-!
# Run names

A run is named by the day on which it starts, in universal time, and random hexadecimal digits. No
run can be named for an instant that has no date.
-/

namespace PromptTemplate

/-- How many characters of a time stamp make its day. -/
def dayWidth : Nat := 10

/-- The day of a time stamp, without dashes. -/
def dayText (stamp : String) : String :=
  String.ofList ((stamp.toList.take dayWidth).filter (· ≠ '-'))

/-- Octets as hexadecimal digits, two for each. -/
def hexText (octets : List UInt8) : String := Encoding.decode octets .hex

/-- The name of a run that starts at `now`, with the random digits given. -/
def runId (now : Instant) (random : String) : Except Failure String :=
  match formatIso? now with
  | some stamp => .ok (dayText stamp ++ "-" ++ random)
  | none => .error .undated

end PromptTemplate
