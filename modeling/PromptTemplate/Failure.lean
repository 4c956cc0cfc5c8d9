import PromptTemplate.Disk
import PromptTemplate.Json.Printer
import PromptTemplate.TemplateError
import PromptTemplate.Validation
/-!
# Failures

Everything that can keep a request or a command from its result, by cause. `Failure.message` is
the wording of each and `Failure.describe` the text that a command shows for it.
-/

namespace PromptTemplate

/-- Why a template file cannot be loaded. -/
inductive LoadFault where
  | noDirectory
  | notFound
  | unsupportedExtension (extension : String)
  /-- No reason is given. -/
  | unstated
  /-- The reason is given in words. -/
  | stated (message : String)
  deriving Repr, DecidableEq

/-- A template file that cannot be loaded. -/
structure LoadError where
  path : String
  fault : LoadFault
  deriving Repr, DecidableEq

/-- The wording for a template file that cannot be loaded. -/
def LoadError.message (e : LoadError) : String :=
  match e.fault with
  | .noDirectory => "Template directory does not exist: " ++ e.path
  | .notFound => "Template file not found: " ++ e.path
  | .unsupportedExtension extension =>
    "Unsupported template extension \"" ++ extension ++ "\". Use: .md, .txt"
  | .unstated => "Failed to load template: " ++ e.path
  | .stated message => message

/-- A setting with a value that it cannot have. -/
inductive SettingError where
  | notBoolean (variableName value : String)
  | unknownEnvironment (value : String)
  | unknownLevel (value : String)
  deriving Repr, DecidableEq

/-- The wording for a setting that cannot be used. -/
def SettingError.message : SettingError → String
  | notBoolean variableName value =>
    "Environment variable " ++ variableName ++
      " must be a boolean (true/false/1/0/yes/no), got: " ++ value
  | unknownEnvironment value =>
    "Invalid NODE_ENV: " ++ value ++ ". Must be development, production, test."
  | unknownLevel value =>
    "Invalid LOG_LEVEL: " ++ value ++ ". Must be debug, info, warn, error."

/-- A command line that cannot be understood. Options are given as they are written. -/
inductive OptionError where
  | unknownOption (option : String)
  | unexpectedArgument (argument : String)
  | missingValue (option : String)
  | ambiguousValue (option : String)
  | unwantedValue (option : String)
  deriving Repr, DecidableEq

/-- The wording for a command line that cannot be understood. -/
def OptionError.message : OptionError → String
  | unknownOption option => "Unknown option '" ++ option ++ "'"
  | unexpectedArgument argument =>
    "Unexpected argument '" ++ argument ++ "'. This command does not take positional arguments"
  | missingValue option => "Option '" ++ option ++ " <value>' argument missing"
  | ambiguousValue option =>
    "Option '" ++ option ++ "' argument is ambiguous.\nDid you forget to specify the option " ++
      "argument for '" ++ option ++ "'?\nTo specify an option argument starting with a dash " ++
      "use '" ++ option ++ "=-XYZ'."
  | unwantedValue option => "Option '" ++ option ++ "' does not take an argument"

/-- Why there is no result. -/
inductive Failure where
  | template (error : TemplateError)
  | load (error : LoadError)
  | config (error : FileIssues)
  | setting (error : SettingError)
  | option (error : OptionError)
  | file (error : FileError)
  /-- A request names no template and has no text. -/
  | noTemplate
  /-- A text is asked for of an instant that has no date. -/
  | undated
  /-- A pipe raises an error of its own. -/
  | raised (message : String)
  /-- A pipe raises a value that is no error. -/
  | raisedValue (value : Json)
  deriving Repr

namespace Failure

/-- The wording of a failure. -/
def message : Failure → String
  | template e => e.message
  | load e => e.message
  | config e => e.message
  | setting e => e.message
  | option e => e.message
  | file e => e.message
  | noTemplate => "Either --template or --inline is required"
  | undated => "Invalid time value"
  | raised message => message
  | raisedValue value => value.scalarText

/-- What a command shows for a failure: every issue of a file, the kind of a template error, and
for all others the wording. -/
def describe : Failure → String
  | config e => e.format
  | template e => "Template error (" ++ e.kind.name ++ "): " ++ e.message
  | failure => failure.message

/-- The kind of a template error; `none` for any other failure. -/
def templateKind? : Failure → Option ErrorKind
  | template e => some e.kind
  | _ => none

end Failure

end PromptTemplate
