import PromptTemplate.Dictionary
import PromptTemplate.Secret
/-!
# What a template can read

A render context holds the dictionary, the secrets, the result, message and sender of the current
job, the memories of past runs (the newest first), and the loop variables that enclosing for-blocks
bind.
-/

namespace PromptTemplate

/-- What is kept of one past run. -/
structure Memory where
  date : Utf16
  datetime : Utf16
  result : Utf16
  deriving Repr, DecidableEq

/-- What a loop variable is bound to. -/
inductive LoopValue where
  | index (value : Int)
  | memory (memory : Memory)
  deriving Repr, DecidableEq

/-- Loop variables by name. -/
abbrev LoopVars := Table String LoopValue

/-- Everything that a template can read. -/
structure Context where
  dictionary : Dictionary := .empty
  secrets : Secrets := Table.empty
  result : Option Utf16 := none
  message : Option Utf16 := none
  sender : Option Utf16 := none
  memories : List Memory := []
  loopVars : LoopVars := Table.empty

/-- The same context with other loop variables. -/
def Context.withVars (c : Context) (vars : LoopVars) : Context := { c with loopVars := vars }

end PromptTemplate
