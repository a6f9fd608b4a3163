import Shopfloor.CommandLine.Reading
import Shopfloor.Settings
/-!
# Invocations

How the program is called: a few flags, then one of three verbs with flags and
operands of its own. What a flag gives takes the place of what the environment
sets. Called without a verb the program does nothing but explain itself.

## Main definitions

* `CommandLine.Errand`: What is to be done.
* `CommandLine.Invocation`: An errand and the settings to do it with.
* `CommandLine.Invocation.read`: The invocation that words are.
-/

namespace Shopfloor

namespace CommandLine

/-- What is to be done. -/
inductive Errand
  /-- Carry out a file. -/
  | run (script : String)
  /-- Carry out one line. -/
  | exec (line : String)
  /-- Start the server at an address, restarting it when it changes if so wished. -/
  | serve (host port : String) (reload : Bool)
  /-- Nothing was asked for. -/
  | explain
deriving DecidableEq, Repr

/-- An errand and the settings to do it with. -/
structure Invocation where
  settings : Settings
  errand : Errand
deriving DecidableEq, Repr

/-- What the program takes in front of a verb. -/
def outerGrammar : Grammar := ⟨[⟨"token", .text⟩, ⟨"log-level", .text⟩], .rest⟩

/-- What the verbs take that have one operand. -/
def operandGrammar : Grammar := ⟨[], .one⟩

/-- What the verb takes that starts the server. -/
def serveGrammar : Grammar :=
  ⟨[⟨"host", .text⟩, ⟨"port", .integer⟩, ⟨"reload", .nothing⟩], .none⟩

/-- The one operand that a reading must have, when nothing else was left over. -/
def soleOperand (r : Reading) : Except Stop String :=
  match r.operand with
  | some [w] => if r.strays then .error .misuse else .ok w
  | _ => .error .misuse

/-- The settings that the flags in front of a verb leave. -/
def Reading.common (r : Reading) (s : Settings) : Settings :=
  { s with
    token := (r.given.get? "token").getD s.token
    logLevel := Text.upper ((r.given.get? "log-level").getD s.logLevel) }

/-- A port as it was given; digits of any script stand for the same number. -/
def portText (given : String) : String :=
  match Number.readInt given with
  | .ok n => toString n
  | .error _ => given

/-- The errand of starting the server where the flags for it say. -/
def Reading.server (r : Reading) (s : Settings) : Errand :=
  .serve ((r.given.get? "host").getD s.host) (((r.given.get? "port").map portText).getD
    (toString s.port)) (r.given.contains "reload")

/-- The invocation that a verb and the words behind it are. -/
def readVerb (s : Settings) (verb : String) (rest : List String) : Except Stop Invocation := do
  match verb with
  | "run" => return ⟨s, .run (← soleOperand (← operandGrammar.read rest))⟩
  | "exec" => return ⟨s, .exec (← soleOperand (← operandGrammar.read rest))⟩
  | "serve" => do
    let r ← serveGrammar.read rest
    if r.strays then throw .misuse
    return ⟨s, r.server s⟩
  | _ => throw .misuse

/-- The invocation that words are, given the settings of the environment. -/
def Invocation.read (settings : Settings) (words : List String) : Except Stop Invocation := do
  let r ← outerGrammar.read words
  let s := r.common settings
  match r.operand with
  | some (verb :: rest) => do
    let i ← readVerb s verb rest
    if r.strays then throw .misuse
    return i
  | _ => if r.strays then throw .misuse else return ⟨s, .explain⟩

end CommandLine

end Shopfloor
