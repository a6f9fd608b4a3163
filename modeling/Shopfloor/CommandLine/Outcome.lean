import Shopfloor.CommandLine.Invocation
import Shopfloor.Script.Replay
/-!
# Outcomes

What comes of calling the program: what it prints, with which code it ends,
and which server it starts.

Carrying out a file ends with code 0 if every line succeeded, 1 if one failed
and 2 if the file could not be read. Carrying out a line ends with 0 or 1.
Starting the server ends with no code of its own. Help ends with 0 and words
that make no sense with 2.

## Main definitions

* `CommandLine.Outcome`: What comes of a call.
* `CommandLine.serverCommand`: How the server is started.
* `CommandLine.outcome`: What comes of words in an environment.
-/

namespace Shopfloor

namespace CommandLine

/-- What comes of a call. -/
inductive Outcome
  /-- The program explains itself, on the error stream after misuse. -/
  | usage (code : Option Nat) (misused : Bool)
  /-- The program did its errand. -/
  | done (code : Option Nat) (out err : String) (served : List (List String))
deriving DecidableEq, Repr

/-- How the server is started, behind the name of what runs it. -/
def serverCommand (s : Settings) (host port : String) (reload : Bool) : List String :=
  ["-m", "uvicorn", "api.main:app", s!"--host={host}", s!"--port={port}",
    "--log-level=" ++ Text.lower s.logLevel] ++ if reload then ["--reload"] else []

/-- What is printed when the server is started. -/
def serverNotice (host port : String) : String :=
  s!"Starting server at http://{host}:{port}\n"
    ++ s!"API docs available at http://{host}:{port}/docs\n"

/-- The line that sums a run up. -/
def summary (r : Script.Run) : String :=
  s!"\n{r.processed} commands, {r.succeeded} succeeded, " ++ toString r.failed ++ " failed"

/-- Carries out a file in a session: the code to end with. -/
def runFile (run : Script.Session Script.Run) : Script.Session Nat := do
  let r ← run
  if r.ioError.isSome then return 2
  Script.printOut (summary r)
  return if r.failed = 0 then 0 else 1

/-- Carries out a line in a session: the code to end with. -/
def runLine (token line : String) : Script.Session Nat := do
  return if ← Script.execute (some token) line then 0 else 1

/-- What comes of a session in an empty shop. -/
def ofSession (session : Script.Session Nat) : Except Fault Outcome :=
  match session.run (Script.Console.fresh .empty) with
  | (.ok code, c) => .ok (.done (some code) c.out c.err [])
  | (.error e, _) => .error e

/-- What comes of an invocation, given how a file is carried out and what runs the server. -/
def Invocation.outcome (i : Invocation) (replay : String → String → Script.Session Script.Run)
    (runner : String) : Except Fault Outcome :=
  match i.errand with
  | .run script => ofSession (runFile (replay i.settings.token script))
  | .exec line => ofSession (runLine i.settings.token line)
  | .serve host port reload =>
    .ok (.done none (serverNotice host port) ""
      [runner :: serverCommand i.settings host port reload])
  | .explain => .ok (.usage none false)

/-- What comes of words in an environment and a folder. -/
def outcome (env : String → Option String) (folder : Files.Folder) (runner : String)
    (words : List String) : Except Fault Outcome := do
  let settings ← Settings.ofEnvironment env
  match Invocation.read settings words with
  | .ok i => i.outcome (fun token script => Script.replay (some token) folder script) runner
  | .error .help => return .usage (some 0) false
  | .error .misuse => return .usage (some 2) true

end CommandLine

end Shopfloor
