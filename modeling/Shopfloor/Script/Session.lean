import Shopfloor.Script.Statement
/-!
# Sessions

Lines given to the shop one after the other, with what is printed on the way.

A line is carried out as a whole: it is taken apart, asked of the shop, and
its answer put into words. A line that fails is reported on the error stream
and the session goes on. Only a refused record or a value that cannot be
written ends it; no line that is merely wrong does.

## Main definitions

* `Script.runLine`: What a line does to the shop and what it answers.
* `Script.Console`: The shop and what was printed so far.
* `Script.Session`: A step of a session.
* `Script.execute`: Carries out a line and prints what came of it.
-/

namespace Shopfloor

namespace Script

/-- Carries out a line and gives its answer. -/
def runLine (token : Option String) (line : String) : Act String := do
  let statement ← Act.ofExcept (Statement.read line)
  let reply ← Shop.perform token statement.operation
  Act.ofExcept (statement.answer reply)

/-- A shop, with what was printed so far. -/
structure Console where
  shop : Shop
  out : String
  err : String
deriving DecidableEq, Repr

/-- A console on which nothing was printed. -/
def Console.fresh (shop : Shop) : Console := ⟨shop, "", ""⟩

/-- A step that may change the shop, print, and end the session. -/
abbrev Session := ExceptT Fault (StateM Console)

/-- Prints a line. -/
def printOut (text : String) : Session Unit :=
  modify fun c => { c with out := c.out ++ text ++ "\n" }

/-- Prints a line on the error stream. -/
def printErr (text : String) : Session Unit :=
  modify fun c => { c with err := c.err ++ text ++ "\n" }

/-- Carries out a line. A failure is handed back in words; any other fault ends the session. -/
def attempt (token : Option String) (line : String) : Session (Except Report String) := do
  let console ← get
  let (outcome, shop) := (runLine token line).runIn console.shop
  set { console with shop }
  match outcome with
  | .ok text => return .ok text
  | .error (.failure action cause) => return .error (cause.report action)
  | .error fault => throw fault

/-- The words for a failure. -/
def failed (r : Report) : String := "Failed: " ++ r.message

/-- Carries out a line and prints what came of it: whether it succeeded. -/
def execute (token : Option String) (line : String) : Session Bool := do
  match ← attempt token line with
  | .ok text => do printOut text; return true
  | .error report => do printErr (failed report); return false

end Script

end Shopfloor
