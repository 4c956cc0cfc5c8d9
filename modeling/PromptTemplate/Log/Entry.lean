import PromptTemplate.Json
/-!
# Log entries

A log entry has one of four levels, a message and named values. An entry counts at a threshold if
its level is not below it.
-/

namespace PromptTemplate

/-- The levels of a log entry. -/
inductive LogLevel where
  | debug
  | info
  | warn
  | error
  deriving Repr, DecidableEq

namespace LogLevel

/-- Every level, the lowest first. -/
def all : List LogLevel := [debug, info, warn, error]

/-- The name of a level. -/
def name : LogLevel → String
  | debug => "debug"
  | info => "info"
  | warn => "warn"
  | error => "error"

/-- The name of a level as a log line shows it: in capitals, five wide. -/
def label : LogLevel → String
  | debug => "DEBUG"
  | info => "INFO "
  | warn => "WARN "
  | error => "ERROR"

/-- How high a level is. -/
def rank : LogLevel → Nat
  | debug => 0
  | info => 1
  | warn => 2
  | error => 3

/-- The level of a name. -/
def ofName? (name : String) : Option LogLevel := all.find? fun level => level.name = name

/-- An entry of this level counts at the threshold. -/
def reaches (level threshold : LogLevel) : Bool := decide (threshold.rank ≤ level.rank)

@[simp] theorem ofName?_name (level : LogLevel) : ofName? level.name = some level := by
  cases level <;> decide

end LogLevel

/-- A log entry. -/
structure LogEntry where
  level : LogLevel
  message : String
  fields : List (Utf16 × Json)
  deriving Repr, BEq

end PromptTemplate
