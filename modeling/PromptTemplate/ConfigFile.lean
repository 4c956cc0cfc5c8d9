import PromptTemplate.Failure
import PromptTemplate.Json.Parser
/-!
# Configuration files

A configuration file holds one JSON value. A file that is not there is no fault of its own; one
that is there has to be JSON.
-/

namespace PromptTemplate

/-- The issue of a file that is not JSON. -/
def notJson : Issue := ⟨[], "not a JSON text", "invalid_json"⟩

/-- The value of the JSON file at a path; `none` if nothing is there. -/
def Disk.readJson (disk : Disk) (path : String) : Except Failure (Option Json) :=
  if disk.pathExists path then
    match disk.readText path with
    | .error e => .error (.file e)
    | .ok text =>
      match Json.parse? text with
      | some value => .ok (some value)
      | none => .error (.config { path, issues := [notJson] })
  else .ok none

end PromptTemplate
