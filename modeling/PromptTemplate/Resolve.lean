import PromptTemplate.Context
import PromptTemplate.Text.Cut
import PromptTemplate.Time.Duration
import PromptTemplate.Time.Stamp
import PromptTemplate.Token
/-!
# What a tag stands for

A tag's name says what it stands for, by the first of these rules that fits: a name with a dot is a
field of a loop variable, `proxy:` a secret's address, `custom:` a dictionary text, one of seven
built-in names what that name says, and any other name a loop variable. Since the dot comes first,
`custom:a.b` is the field `b` of a loop variable `custom:a`.

The tags `date` and `datetime` can be moved back and forth by durations in their params, and these
may take their number from a loop variable: `i"d"` is as many days as `i` says.
-/

namespace PromptTemplate

open Text (cut?)

/-- The built-in tags. -/
inductive Builtin where
  | date
  | datetime
  | datetimeiso
  | result
  | message
  | sender
  | memory
  deriving Repr, DecidableEq

namespace Builtin

/-- Every built-in tag. -/
def all : List Builtin := [date, datetime, datetimeiso, result, message, sender, memory]

/-- The name of a built-in tag. -/
def name : Builtin → String
  | date => "date"
  | datetime => "datetime"
  | datetimeiso => "datetimeiso"
  | result => "result"
  | message => "message"
  | sender => "sender"
  | memory => "memory"

/-- The built-in tag of a name. -/
def ofName? (name : String) : Option Builtin := all.find? fun b => b.name = name

@[simp] theorem ofName?_name (b : Builtin) : ofName? b.name = some b := by cases b <;> decide

end Builtin

/-- What a tag's name refers to. -/
inductive Reference where
  | loopField (variableName field : String)
  | proxy (secret : String)
  | custom (key : String)
  | builtin (tag : Builtin)
  | loopVar (variableName : String)
  deriving Repr, DecidableEq

/-- The text behind the start `lead`, if the text starts so. -/
def dropLead? (lead : List Char) (cs : List Char) : Option (List Char) :=
  if lead.isPrefixOf cs then some (cs.drop lead.length) else none

/-- What comes before a secret's name. -/
def proxyLead : List Char := "proxy:".toList

/-- What comes before a dictionary key. -/
def customLead : List Char := "custom:".toList

/-- What a name refers to. -/
def Reference.ofName (name : String) : Reference :=
  let cs := name.toList
  match cut? ['.'] cs with
  | some (variableName, field) => .loopField (String.ofList variableName) (String.ofList field)
  | none =>
    match dropLead? proxyLead cs with
    | some secret => .proxy (String.ofList secret)
    | none =>
      match dropLead? customLead cs with
      | some key => .custom (String.ofList key)
      | none =>
        match Builtin.ofName? name with
        | some tag => .builtin tag
        | none => .loopVar name

/-- The dictionary section that `custom:` tags read. -/
def customSection : String := "general"

/-! ## Memories -/

/-- How far back `minus` leads: `1` and `0` are the newest memory, and so is no `minus` at all. -/
def memoryOffset (params : Params) : Except TemplateError Nat :=
  match params.get? "minus" with
  | none => .ok 0
  | some text =>
    match Number.unsigned? text.toList with
    | some n => .ok (n - 1)
    | none => .error (.invalidMemoryOffset text)

/-- The memory that the params of a `memory` tag ask for. -/
def resolveMemory (params : Params) (memories : List Memory) : Except TemplateError Memory := do
  let offset ← memoryOffset params
  match memories[offset]? with
  | some memory => .ok memory
  | none => .error (.memoryOutOfRange offset memories.length)

/-! ## Dates -/

/-- The text without the quotes at its end. -/
def dropEndQuotes (cs : List Char) : List Char := (cs.reverse.dropWhile (· == '"')).reverse

/-- A param value with the number of a loop variable in it: the name before the first quote is
replaced by the variable's number and the quotes at the end are taken off. A value without a quote
and a value whose name no loop binds stay as they are. -/
def interpolate (value : String) (vars : LoopVars) : Except TemplateError String :=
  match cut? ['"'] value.toList with
  | none => .ok value
  | some (name, suffix) =>
    match vars.get? (String.ofList name) with
    | none => .ok value
    | some (.memory _) => .error (.interpolatedMemory (String.ofList name))
    | some (.index n) => .ok (Number.intText n ++ String.ofList (dropEndQuotes suffix))

/-- The milliseconds of a duration param; zero if there is none. -/
def paramDuration (key : String) (params : Params) (vars : LoopVars) : Except TemplateError Int :=
  match params.get? key with
  | none => .ok 0
  | some value => do
    let text ← interpolate value vars
    parseDuration text.toList

/-- The milliseconds by which `minus` and `plus` move a date. Sums are rounded as numbers are. -/
def dateOffset (params : Params) (vars : LoopVars) : Except TemplateError Int := do
  let minus ← paramDuration "minus" params vars
  let plus ← paramDuration "plus" params vars
  .ok (Number.round (Number.round (0 - minus) + plus))

/-- What time it is, and where. -/
structure Clock where
  now : Instant
  zone : Zone

/-- The instant that a date tag stands for. -/
def movedInstant (params : Params) (vars : LoopVars) (clock : Clock) :
    Except TemplateError Instant := do
  let offset ← dateOffset params vars
  let moved := Number.round (clock.now + offset)
  if isDatable clock.now && isDatable moved then .ok moved else .error (.dateOutOfRange offset)

/-! ## Tags -/

/-- The text of a loop variable: the number of an index, the result of a memory. -/
def LoopValue.text : LoopValue → Utf16
  | index n => Number.intText n
  | memory m => m.result

/-- The text of a field of a loop variable. -/
def resolveField (variableName field : String) (vars : LoopVars) : Except TemplateError Utf16 :=
  match vars.get? variableName with
  | none => .error (.unknownLoopVariable variableName)
  | some (.index _) => .error (.indexHasNoField variableName field)
  | some (.memory m) =>
    match field with
    | "date" => .ok m.date
    | "datetime" => .ok m.datetime
    | "result" => .ok m.result
    | _ => .error (.memoryHasNoField field)

/-- The text of a built-in tag. -/
def resolveBuiltin (tag : Builtin) (params : Params) (context : Context) (clock : Clock) :
    Except TemplateError Utf16 :=
  match tag with
  | .date => do
    let t ← movedInstant params context.loopVars clock
    .ok (formatDate clock.zone t)
  | .datetime => do
    let t ← movedInstant params context.loopVars clock
    .ok (formatDateTime clock.zone t)
  | .datetimeiso => .ok (formatRfc3339 clock.zone clock.now)
  | .result => .ok (context.result.getD ("" : Utf16))
  | .message => .ok (context.message.getD ("" : Utf16))
  | .sender => .ok (context.sender.getD ("" : Utf16))
  | .memory => do
    let m ← resolveMemory params context.memories
    .ok m.result

/-- The text of a tag, before its pipe. -/
def resolveTag (tag : Tag) (context : Context) (clock : Clock) : Except TemplateError Utf16 :=
  match Reference.ofName tag.name with
  | .loopField variableName field => resolveField variableName field context.loopVars
  | .proxy secret =>
    match context.secrets.get? secret with
    | some s => .ok s.matchUrl
    | none => .error (.unknownSecret secret)
  | .custom key =>
    match context.dictionary.get? customSection key with
    | some text => .ok text
    | none => .error (.unknownDictionaryKey key)
  | .builtin builtin => resolveBuiltin builtin tag.params context clock
  | .loopVar variableName =>
    match context.loopVars.get? variableName with
    | some value => .ok value.text
    | none => .error (.unknownTag tag.name)

end PromptTemplate
