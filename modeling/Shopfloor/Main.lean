import Shopfloor.CommandLine.Outcome
/-!
# The Program

The command line over the real environment, files and streams. Everything that
is decided is decided elsewhere; here variables and files are read and texts
are printed.
-/

namespace Shopfloor

namespace Program

/-- Why a file could not be opened, by the error that reading it gave. -/
def trouble : IO.Error → Files.Trouble
  | .inappropriateType _ _ details => if details = "not a directory" then .notFolder else .isFolder
  | .noFileOrDirectory .. => .missing
  | .noSuchThing .. => .missing
  | .invalidArgument .. => .longName
  | .permissionDenied .. => .other "PermissionError" "Permission denied"
  | e => .other "OSError" (toString e)

/-- What lies at the end of a path. -/
def found (path : String) : IO (Except Files.Trouble (List UInt8)) := do
  try
    return .ok (← IO.FS.readBinFile path).toList
  catch e => return .error (trouble e)

/-- What comes of an invocation, where a file is what lies at its path. -/
def perform (i : CommandLine.Invocation) : IO (Except Fault CommandLine.Outcome) := do
  let files ← match i.errand with
    | .run script => found (Files.Path.ofText script).text
    | _ => pure (.error .missing)
  return i.outcome
    (fun token script => Script.replayAt (some token) script files) "server"

/-- How the program is used. -/
def usage : String :=
  "usage: shopfloor [--token TOKEN] [--log-level LEVEL] "
    ++ "run SCRIPT | exec LINE | serve [--host HOST] [--port PORT] [--reload]"

/-- Prints what came of a call and gives the code to end with. -/
def report : Except Fault CommandLine.Outcome → IO UInt32
  | .ok (.usage code misused) => do
    if misused then IO.eprintln usage else IO.println usage
    return (code.getD 0).toUInt32
  | .ok (.done code out err served) => do
    IO.print out
    IO.eprint err
    served.forM fun command => IO.println (" ".intercalate command)
    return (code.getD 0).toUInt32
  | .error (.badValue flaw) => do
    IO.eprintln flaw.text
    return 1
  | .error (.failure action cause) => do
    IO.eprintln (cause.report action).message
    return 1
  | .error (.badRecord fields) => do
    IO.eprintln (", ".intercalate (fields.map fun f => f.1 ++ " " ++ f.2.name))
    return 1

/-- A call with the given words. -/
def call (words : List String) : IO UInt32 := do
  let names := [Settings.tokenVariable, Settings.logLevelVariable, Settings.hostVariable,
    Settings.portVariable]
  let values ← names.mapM fun name => (IO.getEnv name : IO (Option String))
  match Settings.ofEnvironment fun name => ((names.zip values).lookup name).join with
  | .error e => report (.error e)
  | .ok settings =>
    match CommandLine.Invocation.read settings words with
    | .ok i => report (← perform i)
    | .error .help => report (.ok (.usage (some 0) false))
    | .error .misuse => report (.ok (.usage (some 2) true))

end Program

end Shopfloor

/-- The program. -/
def main (words : List String) : IO UInt32 := Shopfloor.Program.call words
