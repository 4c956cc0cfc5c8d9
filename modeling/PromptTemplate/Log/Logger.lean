import PromptTemplate.Disk
import PromptTemplate.Log.Line
/-!
# Loggers

A logger writes the lines of the entries that reach its level to the console, to a log file, or to
both. A line for the console goes to the channel of its level, or to the error channel whatever its
level is. A line that cannot be put into the log file goes to the error channel behind a notice, so
that it is not lost.
-/

namespace PromptTemplate

/-- What a logger does with its lines. -/
structure Logger where
  level : LogLevel := .info
  directory : String := "logs"
  fileName : String := "vatic.log"
  /-- Write to the console. -/
  toConsole : Bool := true
  /-- Write to the log file. -/
  toFile : Bool := false
  /-- Use the error channel for every level. -/
  errorChannel : Bool := false
  deriving Repr, DecidableEq

/-- A line on the console, and the level of its channel. -/
abbrev ConsoleLine := LogLevel × String

namespace Logger

/-- The path of the log file. -/
def path (logger : Logger) : String := Path.join logger.directory logger.fileName

/-- Get ready to write: the directory of the log file is made if need be. -/
def start (logger : Logger) (disk : Disk) : Option FileError × Disk :=
  if logger.toFile && !disk.pathExists logger.directory then disk.makeDirectory logger.directory
  else (none, disk)

/-- The channel for an entry of a level. -/
def channel (logger : Logger) (level : LogLevel) : LogLevel :=
  if logger.errorChannel then .error else level

/-- What goes to the console if a line cannot be put into the log file. -/
def notFiled (e : FileError) (line : String) : List ConsoleLine :=
  [(.error, "Failed to write to log file: " ++ e.line), (.error, line)]

/-- Put a line into the log file. -/
def file (logger : Logger) (disk : Disk) (line : String) : List ConsoleLine × Disk :=
  if logger.toFile then
    match disk.append logger.path (line ++ "\n") with
    | .ok disk => ([], disk)
    | .error e => (notFiled e line, disk)
  else ([], disk)

/-- Write an entry: what goes to the console, and the disk with the log file. -/
def write (logger : Logger) (disk : Disk) (stamp : String) (run : Option String)
    (entry : LogEntry) : List ConsoleLine × Disk :=
  if entry.level.reaches logger.level then
    let line := entry.line stamp run
    let shown := if logger.toConsole then [(logger.channel entry.level, line)] else []
    let (notices, disk) := logger.file disk line
    (shown ++ notices, disk)
  else ([], disk)

end Logger

end PromptTemplate
