import PromptTemplate.ConfigFile
import PromptTemplate.Context
/-!
# Job data

The data of one job: its result, message and sender, and what is kept of past runs. Such data is
written as a JSON object with no other members. A past run is written in one of two forms: as a
memory, with a date of its own, or as a stored run, whose date is the start of its creation time.
Where a value has both forms the memory counts.
-/

namespace PromptTemplate

/-- A text is a date: four digits, two and two, with dashes between. -/
def isDateForm (cs : List Char) : Bool :=
  match cs with
  | [y, y', y'', y''', '-', m, m', '-', d, d'] =>
    [y, y', y'', y''', m, m', d, d'].all fun c => (Number.digit? c).isSome
  | _ => false

/-- A date; a text of any other form stays, with an issue. -/
def checkDate (value : Json) : Checked Utf16 :=
  match value with
  | .string s =>
    if isDateForm s.text.toList then .ok s
    else (Checked.ok s).addIssue ⟨[], "date must be YYYY-MM-DD", "invalid_string"⟩
  | value => checkText value

/-- How many units of a creation time make its date. -/
def dateUnits : Nat := 10

/-- A creation time, which begins with a date; a text that is too short stays, with an issue. -/
def checkCreation (value : Json) : Checked Utf16 :=
  match value with
  | .string s =>
    if dateUnits ≤ s.size then .ok s
    else (Checked.ok s).addIssue ⟨[], "createdAt must start with YYYY-MM-DD", "too_small"⟩
  | value => checkText value

namespace Memory

/-- A memory in its own form. -/
def check (value : Json) : Checked Memory :=
  checkObject (fun members =>
    Memory.mk <$> requiredMember checkDate "date" members
      <*> requiredMember checkText "datetime" members
      <*> requiredMember checkText "result" members) value

/-- The memory of a run that was created at a given time. -/
def ofRun (result createdAt : Utf16) : Memory where
  date := createdAt.take dateUnits
  datetime := createdAt
  result := result

/-- A memory in the form of a stored run. It has a value only if it has no issue. -/
def checkRun (value : Json) : Checked Memory :=
  (checkObject (fun members =>
    ofRun <$> requiredMember checkText "result" members
      <*> requiredMember checkCreation "createdAt" members) value).strict

/-- A memory in either form. If neither checks, the issues of the first count as long as it has a
value to go on with, and otherwise the two together make one issue. -/
def checkEither (value : Json) : Checked Memory :=
  (check value).orElse (checkRun value) ⟨[], "Invalid input", "invalid_union"⟩

end Memory

/-- The data of one job. -/
structure JobData where
  result : Option Utf16 := none
  message : Option Utf16 := none
  sender : Option Utf16 := none
  memories : List Memory := []
  deriving Repr, DecidableEq

namespace JobData

/-- The members that job data may have. -/
def memberNames : List String := ["result", "message", "sender", "memories"]

/-- Job data. -/
def check (value : Json) : Checked JobData :=
  checkObject (fun members =>
    refuseUnknown memberNames members <|
      JobData.mk <$> optionalMember checkText "result" members
        <*> optionalMember checkText "message" members
        <*> optionalMember checkText "sender" members
        <*> defaultMember (checkArray Memory.checkEither) [] "memories" members) value

/-- The issue of a file that has to be there and is not. -/
def absent (path : String) : FileIssues where
  path := path
  issues := [⟨[], "file not found", "not_found"⟩]
  heading := some ("Context file not found: " ++ path)

/-- The job data in the file at a path, which has to be there. -/
def load (disk : Disk) (path : String) : Except Failure JobData := do
  match ← disk.readJson path with
  | none => .error (.config (absent path))
  | some data => (validate check path [] data).mapError .config

end JobData

end PromptTemplate
