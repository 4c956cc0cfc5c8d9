import PromptTemplate.CommandLine.Options
import PromptTemplate.Log.Logger
import PromptTemplate.Settings.EnvFile.Source
/-!
# The command

The command renders one template and shows it. The rendered text, or a report of it as JSON, goes
to the standard output; a heading, the log and errors go to the error output. A run that fails ends
with code 1 and shows no text on the standard output.

Settings are read first, then the command line, and a command line that asks for help is answered
before the settings are looked at any further.
-/

namespace PromptTemplate

/-- What a run of the command is given. -/
structure Invocation where
  args : List String
  environment : Variables
  disk : Disk
  clock : Clock
  /-- The time that log lines show. -/
  stamp : String
  /-- The name of the run. -/
  run : String
  /-- The output goes to a terminal. -/
  terminal : Bool

/-- What a run of the command leaves. -/
structure Outcome where
  code : Nat
  stdout : String
  stderr : String
  deriving Repr, DecidableEq

namespace CommandLine

/-- The help text. -/
def help (settings : Settings) : String :=
  "\nUsage: render-template [options]\n\n" ++
  "  npm run render -- --template <filename> [--context <path>]\n" ++
  "  npm run render -- --inline \"<template text>\"\n\n" ++
  "Options:\n" ++
  "  --template <filename>   Template in the templates directory\n" ++
  "  --templates <dir>       Templates directory (default: " ++ settings.templateDir ++ ")\n" ++
  "  --inline <text>         Render this text instead of a file\n" ++
  "  --dictionary <path>     Dictionary JSON (default: " ++ settings.dictionaryPath ++ ")\n" ++
  "  --secrets <path>        Secrets JSON (default: " ++ settings.secretsPath ++ ")\n" ++
  "  --context <path>        Context JSON with result, message, sender, memories\n" ++
  "  --json                  Output as JSON (includes metadata)\n" ++
  "  --verbose               Log debug output to stderr\n" ++
  "  --no-color              Disable ANSI colors\n" ++
  "  -h, --help              Show this help message\n\n" ++
  "Exit codes:\n" ++
  "  0 - Rendered\n" ++
  "  1 - Error (bad arguments, unreadable files, template error)\n"

/-! ## Output -/

/-- The colours of the error output. -/
inductive Colour where
  | dim
  | red
  | cyan
  deriving Repr, DecidableEq

/-- The number of a colour in an escape sequence. -/
def Colour.code : Colour → String
  | dim => "2"
  | red => "31"
  | cyan => "36"

/-- An escape sequence. -/
def escape (code : String) : String := "\x1b[" ++ code ++ "m"

/-- A text in a colour, if colours are in use. -/
def paint (colours : Bool) (colour : Colour) (text : String) : String :=
  if colours then escape colour.code ++ text ++ escape "0" else text

/-- A preview as JSON. -/
def report (p : Preview) : Json :=
  .object
    [("templateName", .string p.templateName), ("rendered", .string p.rendered),
      ("metadata", .object
        [("tagCount", .ofNat p.tagCount), ("loopCount", .ofNat p.loopCount),
          ("memoryCount", .ofNat p.memoryCount),
          ("dictionarySections", .array (p.dictionarySections.map .string)),
          ("secretNames", .array (p.secretNames.map .string)),
          ("lineCount", .ofNat p.lineCount), ("charCount", .ofNat p.charCount)])]

/-- The heading of a preview: its name and its counts. -/
def heading (colours : Bool) (p : Preview) : String :=
  paint colours .cyan ("── " ++ p.templateName ++ " ──") ++ "\n" ++
    paint colours .dim ("  " ++ Number.natText p.tagCount ++ " tags, " ++
      Number.natText p.loopCount ++ " loops, " ++ Number.natText p.memoryCount ++ " memories") ++
    "\n"

/-- The line that shows a failure. -/
def errorLine (colours : Bool) (failure : Failure) : String :=
  paint colours .red ("Error: " ++ failure.describe) ++ "\n"

/-! ## Runs -/

/-- A run that failed, with what it has shown on the error output. -/
def failed (colours : Bool) (shown : String) (failure : Failure) : Outcome :=
  ⟨1, "", shown ++ errorLine colours failure⟩

/-- The logger of a run. -/
def logger (options : Options) (level : LogLevel) : Logger where
  level := if options.verbose then .debug else level
  errorChannel := true

/-- The lines of log entries. -/
def logText (logger : Logger) (i : Invocation) (log : List LogEntry) : String :=
  String.join (log.flatMap fun entry =>
    (logger.write i.disk i.stamp (some i.run) entry).1.map fun line => line.2 ++ "\n")

/-- Render what the options ask for, and show it. -/
def renderWith (i : Invocation) (options : Options) (colours : Bool) (level : LogLevel) : Outcome :=
  let done := options.request.preview i.disk i.clock
  let shown := logText (logger options level) i done.log
  match done.result with
  | .error failure => failed colours shown failure
  | .ok p =>
    if options.json then ⟨0, (report p).pretty ++ "\n", shown⟩
    else ⟨0, p.rendered.text ++ "\n", shown ++ heading colours p⟩

/-- The variable that turns colours off. -/
def noColourVariable : String := "NO_COLOR"

/-- The names of the variables that a run looks at. -/
def variableNames : List String :=
  noColourVariable :: Settings.variableNames ++ EnvFile.Source.variableNames

/-- The variables of a run, completed by those of its variable file. -/
def loaded (i : Invocation) : EnvFile.Loaded := EnvFile.complete i.environment i.args i.disk

/-- The paths that tell where the variables of a run come from. -/
def variablePaths (i : Invocation) : List String :=
  let source := EnvFile.Source.ofVariables i.environment i.args
  [source.file i.environment i.disk.cwd, source.vault i.disk.cwd]

/-- The paths that a run may read, once its variables are complete. -/
def paths (i : Invocation) : List String :=
  match Settings.ofVariables (loaded i).vars with
  | .error _ => []
  | .ok settings =>
    match Options.parse settings i.args with
    | .error _ => []
    | .ok options => options.request.paths i.disk.cwd

/-- A run of the command, once its variables are complete. -/
def runWith (i : Invocation) (vars : Variables) : Outcome :=
  let colours := i.terminal && (vars.value? noColourVariable).isNone
  match Settings.ofVariables vars with
  | .error e => failed colours "" (.setting e)
  | .ok settings =>
    match Options.parse settings i.args with
    | .error e => failed colours "" (.option e)
    | .ok options =>
      if options.help then ⟨0, help settings ++ "\n", ""⟩
      else
        let colours := colours && !options.noColor
        match settings.level with
        | .error e => failed colours "" (.setting e)
        | .ok level => renderWith i options colours level

/-- A run of the command. What is told of its variable file stands before all other output. -/
def run (i : Invocation) : Outcome :=
  let found := loaded i
  let outcome := runWith i found.vars
  { outcome with stdout := String.join (found.notices.map (· ++ "\n")) ++ outcome.stdout }

end CommandLine

end PromptTemplate
