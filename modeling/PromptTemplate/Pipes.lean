import PromptTemplate.Failure
import PromptTemplate.Text.Utf16
/-!
# Pipes

A pipe changes the text of a tag or fails. Pipes are found by name in a registry.
-/

namespace PromptTemplate

/-- What a tag's text goes through. -/
abbrev Pipe := Utf16 → Except Failure Utf16

/-- Pipes by name. -/
abbrev Pipes := Table String Pipe

namespace Pipes

/-- What the summary pipe puts in front of a text. -/
def summaryLabel : Utf16 := "Summary of: "

/-- Mark a text as one that is to be summarised. -/
def summary : Pipe := fun input => .ok (summaryLabel ++ input)

/-- The built-in pipes. -/
def default : Pipes := Table.ofList [("summary", summary)]

/-- The names in ascending order of their units. -/
def names (pipes : Pipes) : List String := Utf16.sortStrings pipes.keys

/-- Send a text through the pipe of a name. -/
def apply (pipes : Pipes) (name : String) (input : Utf16) : Except Failure Utf16 :=
  match pipes.get? name with
  | some pipe => pipe input
  | none => .error (.template (.unknownPipe name))

end Pipes

end PromptTemplate
