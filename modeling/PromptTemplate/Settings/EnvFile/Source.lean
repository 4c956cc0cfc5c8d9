import PromptTemplate.Disk
import PromptTemplate.Settings
import PromptTemplate.Settings.EnvFile
import PromptTemplate.Text.Encoding
/-!
# Where variables come from

Variables are completed by those of a variable file. Which file that is and how it is read can be
asked for by other variables, and before those by arguments. A variable that is set already stays
as it is, even if it is empty, unless the file is to override it. A file that cannot be read sets
nothing.

What has been done is told in notices if the reading is to be followed; a notice on a missing vault
is given in any case. A vault itself is never read.
-/

namespace PromptTemplate.EnvFile

/-- What is asked of a variable file. What is empty counts as not asked. -/
structure Source where
  path : Option String := none
  encoding : Option String := none
  /-- Its variables replace those that are set already. -/
  override : Bool := false
  /-- What is done is told. -/
  debug : Bool := false
  /-- The variables are to come from a vault, which this is the key of. -/
  vaultKey : Option String := none
  deriving Repr, DecidableEq

/-- Variables after a variable file was read, and what is told of it. -/
structure Loaded where
  vars : Variables
  notices : List String

namespace Source

/-- What an argument asks under a word: something on one line behind an equals sign. -/
def argument? (word arg : String) : Option String :=
  let opening := ("dotenv_config_" ++ word ++ "=").toList
  if opening.isPrefixOf arg.toList then
    let value := arg.toList.drop opening.length
    if value.isEmpty || value.any isLineEnd then none else some (String.ofList value)
  else none

/-- The variable that asks for something under a word. -/
def variableName (word : String) : String := "DOTENV_CONFIG_" ++ word.map Char.toUpper

/-- What is asked under a word, by the last argument that asks it or else by a variable. -/
def asked? (vars : Variables) (args : List String) (word : String) : Option String :=
  (args.reverse.findSome? (argument? word)).or (vars.value? (variableName word))

/-- The variable that holds the key of the vault if nothing else asks for one. -/
def keyVariable : String := "DOTENV_KEY"

/-- The variable that names the directory of whoever runs the command. -/
def homeVariable : String := "HOME"

/-- What variables and arguments ask of a variable file. -/
def ofVariables (vars : Variables) (args : List String) : Source where
  path := asked? vars args "path"
  encoding := asked? vars args "encoding"
  override := (asked? vars args "override").isSome
  debug := (asked? vars args "debug").isSome
  vaultKey := (asked? vars args keyVariable).or (vars.value? keyVariable)

/-- The names of the variables that say where variables come from. -/
def variableNames : List String :=
  homeVariable :: keyVariable ::
    ["path", "encoding", "override", "debug", keyVariable].map variableName

/-- The path of the variable file if none is asked for. -/
def usualName : String := ".env"

/-- The path of the variable file. A tilde at its start stands for the home directory. -/
def file (source : Source) (vars : Variables) (cwd : Place) : String :=
  match source.path with
  | none => Path.absolute (cwd ++ [usualName])
  | some path =>
    if ['~'].isPrefixOf path.toList then
      Path.join ((vars.get? homeVariable).getD "/") (String.ofList (path.toList.drop 1))
    else path

/-- The path of the vault. -/
def vault (source : Source) (cwd : Place) : String :=
  let path := source.path.getD (Path.absolute (cwd ++ [usualName]))
  if ".vault".toList.isSuffixOf path.toList then path else path ++ ".vault"

/-! ## Notices -/

/-- The start of every notice. -/
def banner : String := "[dotenv@16.6.1]"

/-- A notice on what is done. -/
def step (text : String) : String := banner ++ "[DEBUG] " ++ text

/-- The notice on a vault that is not there. -/
def vaultNotice : String :=
  banner ++ "[WARN] You set DOTENV_KEY but you are missing a .env.vault file at null. " ++
    "Did you forget to build it?"

/-- The notice on a variable that was set before. -/
def setBefore (override : Bool) (name : String) : String :=
  step ("\"" ++ name ++ "\" is already defined and " ++
    if override then "WAS overwritten" else "was NOT overwritten")

/-- The notice at the end of the reading. -/
def summary (count : Nat) (place : String) : String :=
  banner ++ " injecting env (" ++ Number.natText count ++ ") from " ++ place

/-! ## Reading -/

/-- The text of the variable file, or why there is none. -/
def read (source : Source) (disk : Disk) (path : String) : Except String String :=
  match Encoding.ofName? (source.encoding.getD "utf8") with
  | none => .error (unusable "encoding" "is invalid encoding" (source.encoding.getD ""))
  | some encoding =>
    match disk.read path with
    | .error e => .error e.message
    | .ok octets => .ok (encoding.decode octets)

/-- Set the variables of a file, but not those that are set already unless they are overridden. -/
def add (source : Source) (vars : Variables) (found : List (String × String)) : Variables :=
  found.foldl
    (fun vars e => if vars.isSet e.1 && !source.override then vars else vars.set e.1 e.2) vars

/-- What is told of a reading that set `found`, or of its failure. -/
def notices (source : Source) (vars : Variables) (cwd : Place) (path : String)
    (found : Except String (List (String × String))) : List String :=
  let place := Path.relative cwd (Path.resolve cwd path)
  let start := if source.encoding.isSome then [] else
    [step "No encoding is specified. UTF-8 is used by default"]
  match found with
  | .error reason =>
    start ++ [step ("Failed to load " ++ path ++ " " ++ reason), summary 0 place]
  | .ok entries =>
    start ++ ((entries.filter fun e => vars.isSet e.1).map fun e =>
      setBefore source.override e.1) ++ [summary entries.length place]

/-- Complete variables by those of the variable file. -/
def complete (source : Source) (vars : Variables) (disk : Disk) : Loaded :=
  let path := source.file vars disk.cwd
  let found := (source.read disk path).map fun text => (parse text).entries
  let vaultMissing := source.vaultKey.isSome && !disk.pathExists (source.vault disk.cwd)
  { vars := source.add vars (found.toOption.getD [])
    notices := (if vaultMissing then [vaultNotice] else []) ++
      if source.debug then source.notices vars disk.cwd path found else [] }

end Source

/-- Complete variables by those of the variable file that they and the arguments ask for. -/
def complete (vars : Variables) (args : List String) (disk : Disk) : Loaded :=
  (Source.ofVariables vars args).complete vars disk

end PromptTemplate.EnvFile
