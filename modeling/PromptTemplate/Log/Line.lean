import PromptTemplate.Json.Printer
import PromptTemplate.Log.Entry
/-!
# Log lines

A log line shows the time, the level, the run and the message of an entry, and behind them its
named values as JSON if there are any.
-/

namespace PromptTemplate

/-- What stands for the run of an entry that is logged before any run starts. -/
def noRun : String := "no-run-id"

/-- A text in square brackets. -/
def bracketed (text : String) : String := "[" ++ text ++ "]"

/-- The line of an entry, with the time of day and the run given. -/
def LogEntry.line (entry : LogEntry) (stamp : String) (run : Option String) : String :=
  bracketed stamp ++ " " ++ bracketed entry.level.label ++ " " ++ bracketed (run.getD noRun) ++
    " " ++ entry.message ++
    if entry.fields.isEmpty then "" else " " ++ (Json.ofMembers entry.fields).compact

end PromptTemplate
