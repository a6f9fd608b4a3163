import Shopfloor.Files.Folder
import Shopfloor.Script.Session
import Shopfloor.Text.Lines
import Shopfloor.Text.Utf8
/-!
# Replay

A file of lines, carried out from top to bottom.

The file is read as a whole before anything is done, so a file that cannot be
opened or is not UTF-8 does nothing. Blank lines and lines that begin with a
number sign are passed over; every other line is shown with its number,
carried out and counted, and a line that fails does not stop the ones below.

## Main definitions

* `Script.Run`: What came of a file.
* `Script.fileLines`: The lines of a file, or why it cannot be read.
* `Script.replayLine`: One line of a file.
* `Script.replayAt`: A whole file, given what was found at the end of its path.
* `Script.replay`: A whole file, looked for in a folder.
-/

namespace Shopfloor

namespace Script

/-- What came of a file. -/
structure Run where
  path : String
  processed : Nat
  succeeded : Nat
  /-- The failures of lines, in order. -/
  errors : List Report
  /-- Why the file could not be read. -/
  ioError : Option Report
deriving DecidableEq, Repr

/-- The number of lines that failed. -/
def Run.failed (r : Run) : Nat := r.errors.length

/-- The failures of lines that could not be read, by their lines. -/
def Run.parseErrors (r : Run) : List String := r.errors.filterMap (·.line)

/-- A file of which nothing was carried out yet. -/
def Run.fresh (path : String) : Run := ⟨path, 0, 0, [], none⟩

/-- How many bytes of a file are read at once. -/
def pageSize : Nat := 8192

/-- Why a file cannot be read: the name of the error, and the words for it. -/
structure Unreadable where
  errorName : String
  text : String
deriving DecidableEq, Repr

/-- The lines of what was found at the end of a path, or why it cannot be read. -/
def fileLines (found : Except Files.Trouble (List UInt8)) : Except Unreadable (List (List Char)) :=
  match found with
  | .error trouble => .error ⟨trouble.name, trouble.text⟩
  | .ok bytes =>
    match Utf8.decodePages pageSize bytes with
    | .ok text => .ok (Text.splitLines text)
    | .error (flaw, place) => .error ⟨"UnicodeDecodeError", flaw.reason ++ s!" at byte {place}"⟩

/-- Whether a trimmed line is passed over. -/
def isSkipped (line : List Char) : Bool := line.isEmpty || line.head? = some '#'

/-- Carries out one line of a file, given with its number. -/
def replayLine (token : Option String) (run : Run) (entry : List Char × Nat) : Session Run := do
  let line := Text.trimChars entry.1
  if isSkipped line then return run
  let line := String.ofList line
  let number := entry.2
  -- The line is shown before it is carried out, so that its failure stands below it.
  printOut s!"{number}> {line}"
  let run := { run with processed := run.processed + 1 }
  match ← attempt token line with
  | .ok text => do
    printOut text
    return { run with succeeded := run.succeeded + 1 }
  | .error report => do
    printErr (failed report)
    return { run with errors := run.errors ++ [report] }

/-- Carries out the lines of a file. -/
def replayLines (token : Option String) (run : Run) (lines : List (List Char)) : Session Run :=
  (lines.zipIdx 1).foldlM (replayLine token) run

/-- Carries out what was found at the end of a path. -/
def replayFound (token : Option String) (path : Files.Path)
    (found : Except Files.Trouble (List UInt8)) : Session Run := do
  match fileLines found with
  | .ok lines => replayLines token (.fresh path.text) lines
  | .error why => do
    let report := Report.ofFile why.errorName path.text
    printErr (failed report ++ s!" ({why.text})")
    return { Run.fresh path.text with ioError := some report }

/-- Carries out a file, given what was found at the end of its path. A path with a null character in
    it is no path, and nothing is looked for. -/
def replayAt (token : Option String) (path : String)
    (found : Except Files.Trouble (List UInt8)) : Session Run := do
  let path := Files.Path.ofText path
  if path.text.toList.contains (Char.ofNat 0) then throw (.badValue .nullInside)
  replayFound token path found

/-- Carries out a file of a folder. -/
def replay (token : Option String) (folder : Files.Folder) (path : String) : Session Run :=
  replayAt token path (folder.read (.ofText path))

end Script

end Shopfloor
