import PromptTemplate.CommandLine
import PromptTemplate.Log.RunId
import Std.Time
/-!
# The program

The program looks up what a run of the command is given - the arguments, the variables, the files
that the run may read, the time and the local zone - and prints what it leaves. The permissions of
files cannot be seen from here, so every file counts as its owner's alone.
-/

namespace PromptTemplate.Program

/-- The permission bits that a file is taken to have. -/
def ownerOnly : Nat := 0o600

/-- What stands at a path whose directory is known to be there. -/
def look (path : String) : IO (Option DiskEntry) := do
  try
    return some (.file (← IO.FS.readBinFile path).toList ownerOnly)
  catch
    | .inappropriateType .. => return some .directory
    | _ => return none

/-- Look along the steps of a path for as long as they lead to directories. -/
def walk (disk : Disk) : List String → IO Disk
  | [] => return disk
  | path :: rest => do
    match ← look path with
    | none => return disk
    | some entry =>
      let disk := disk.put (Path.resolve disk.cwd path) entry
      if entry.isFile then return disk else walk disk rest

/-- The disk with what stands at some paths and on the way to them. -/
def lookAt (disk : Disk) (paths : List String) : IO Disk :=
  paths.foldlM (fun disk path => walk disk (Path.steps path)) disk

/-- The disk with nothing on it but the working directory. -/
def start : IO Disk := do
  let cwd := Path.resolve [] (← IO.currentDir).toString
  return ⟨Table.ofList [(cwd, .directory)], cwd⟩

/-- The variables that a run looks at. -/
def environment : IO Variables := do
  let found ← CommandLine.variableNames.filterMapM fun name => do
    return (← IO.getEnv name).map fun value => (name, value)
  return Variables.ofPairs found

/-- The time zone of this machine, or universal time if it cannot be found out. -/
def localZone : IO Zone := do
  try
    let rules ← Std.Time.Database.defaultGetLocalZoneRules
    return ⟨fun t =>
      (rules.timezoneAt (.ofMillisecondsSinceUnixEpoch ⟨t⟩)).offset.second.val / 60⟩
  catch _ => return Zone.utc

/-- What this run of the command is given. -/
def invocation (args : List String) : IO Invocation := do
  let now : Instant := (← Std.Time.Timestamp.now).toMillisecondsSinceUnixEpoch.val
  let random := hexText (← IO.getRandomBytes 3).toList
  let known : Invocation :=
    { args := args
      environment := ← environment
      disk := ← start
      clock := ⟨now, ← localZone⟩
      stamp := (formatIso? now).getD ""
      run := (runId now random).toOption.getD ""
      terminal := ← (← IO.getStdout).isTty }
  let known := { known with disk := ← lookAt known.disk (CommandLine.variablePaths known) }
  return { known with disk := ← lookAt known.disk (CommandLine.paths known) }

end PromptTemplate.Program

/-- Run the command. -/
def main (args : List String) : IO UInt32 := do
  let outcome := PromptTemplate.CommandLine.run (← PromptTemplate.Program.invocation args)
  (← IO.getStderr).putStr outcome.stderr
  (← IO.getStdout).putStr outcome.stdout
  return outcome.code.toUInt32
