import PromptTemplate.Failure
import PromptTemplate.Log.Entry
import PromptTemplate.Text.LowerCase
/-!
# Settings

The settings of a run come from variables. A variable that is empty counts as one that is not set,
and every setting has a value of its own for that case. Neither a name nor a value can hold a NUL:
whatever is given ends there.
-/

namespace PromptTemplate

/-- Variables by name. -/
abbrev Variables := Table String String

namespace Variables

/-- A text up to its first NUL. -/
def upToNul (s : String) : String := String.ofList (s.toList.takeWhile (· ≠ '\x00'))

/-- Set a variable. A name that is empty or holds an equals sign sets none. -/
def set (vars : Variables) (name value : String) : Variables :=
  let name := upToNul name
  if name = "" ∨ '=' ∈ name.toList then vars else vars.insert name (upToNul value)

/-- The variable is set, if only to nothing. -/
def isSet (vars : Variables) (name : String) : Bool := vars.contains (upToNul name)

/-- The variables that pairs set, one after another. -/
def ofPairs (pairs : List (String × String)) : Variables :=
  pairs.foldl (fun vars e => vars.set e.1 e.2) Table.empty

/-- The value of a variable that is not empty. -/
def value? (vars : Variables) (name : String) : Option String :=
  (vars.get? (upToNul name)).filter (· ≠ "")

/-- The value of a variable, or the default. -/
def text (vars : Variables) (name default : String) : String := (vars.value? name).getD default

/-- The words for yes. -/
def yesWords : List (List Char) := ["true".toList, "1".toList, "yes".toList]

/-- The words for no. -/
def noWords : List (List Char) := ["false".toList, "0".toList, "no".toList]

/-- Yes or no, in whatever case. -/
def readFlag (name value : String) : Except SettingError Bool :=
  let word := Text.lower value.toList
  if yesWords.contains word then .ok true
  else if noWords.contains word then .ok false
  else .error (.notBoolean name value)

/-- The value of a variable that says yes or no, or the default. -/
def flag (vars : Variables) (name : String) (default : Bool) : Except SettingError Bool :=
  match vars.value? name with
  | none => .ok default
  | some value => readFlag name value

end Variables

/-- The settings of a run. -/
structure Settings where
  environment : String
  debug : Bool
  /-- The level as it is given, which need not be the name of one. -/
  logLevel : String
  appName : String
  dictionaryPath : String
  secretsPath : String
  templateDir : String
  deriving Repr, DecidableEq

namespace Settings

/-- The settings that variables give. -/
def ofVariables (vars : Variables) : Except SettingError Settings := do
  let debug ← vars.flag "DEBUG" false
  .ok
    { environment := vars.text "NODE_ENV" "development"
      debug := debug
      logLevel := vars.text "LOG_LEVEL" "info"
      appName := vars.text "APP_NAME" "vatic-template"
      dictionaryPath := vars.text "VATIC_DICTIONARY" "config/dictionary.json"
      secretsPath := vars.text "VATIC_SECRETS" "config/secrets.json"
      templateDir := vars.text "VATIC_TEMPLATES" "templates" }

/-- The names of the variables that settings are read from. -/
def variableNames : List String :=
  ["NODE_ENV", "DEBUG", "LOG_LEVEL", "APP_NAME", "VATIC_DICTIONARY", "VATIC_SECRETS",
    "VATIC_TEMPLATES"]

/-- The environments that a run may be for. -/
def environments : List String := ["development", "production", "test"]

/-- The level at which a run logs. The environment and the level have to be known; a run that is
being debugged logs everything. -/
def level (settings : Settings) : Except SettingError LogLevel :=
  if settings.environment ∈ environments then
    match LogLevel.ofName? settings.logLevel with
    | none => .error (.unknownLevel settings.logLevel)
    | some level => .ok (if settings.debug then .debug else level)
  else .error (.unknownEnvironment settings.environment)

end Settings

end PromptTemplate
