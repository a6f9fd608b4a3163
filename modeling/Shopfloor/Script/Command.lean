import Shopfloor.Keyed
import Shopfloor.Location
import Shopfloor.Script.Word
import Shopfloor.Text.Split
import Shopfloor.Fault
import Shopfloor.Text.Case
/-!
# Commands

A command line taken apart: a verb, the id it is about, and keywords with
their values.

Some verbs take an object, and their name is both words. Names and keywords
are read in small letters; ids and values are kept as they were written. A
keyword takes the word after it, and one that comes again takes the place of
the first. Two keywords carry free text and take everything that is left of
the line, words joined by single spaces.

An id may be compound, its parts separated by colons. A compound id has a
fixed number of parts and none of them is empty.

## Main definitions

* `Script.Command`: A command line taken apart.
* `Script.words`: The words of a line, or the refusal of the line.
* `Script.keywordArgs`: Keywords and their values.
* `Script.Command.read`: Takes a line apart.
* `Script.splitLocation`: The parts of a compound id.
* `Script.Command.id`, `Script.Command.arg`: What a command must give.
-/

namespace Shopfloor

namespace Script

/-- A command line taken apart. -/
structure Command where
  /-- The verb, with its object if it takes one. -/
  name : String
  /-- The id that the command is about. -/
  target : Option String
  args : Keyed String
  /-- The whole line, which refusals show. -/
  line : String
deriving DecidableEq, Repr

/-- The verbs that take an object. -/
def compoundVerbs : List String := ["define", "show", "update", "assign", "create", "delete"]

/-- Whether a keyword takes everything that is left of the line. -/
def isFreeText (keyword : String) : Bool := keyword = "event" || keyword = "message"

/-- The words of a line, or the refusal of the line. -/
def words (line : String) : Except Fault (List String) :=
  match words? line with
  | some ws => .ok ws
  | none => .error (.unreadable line .openQuote)

/-- Adds the keywords of a row of words, with their values, to those that came before. -/
def addArgs (line : String) (args : Keyed String) : List String → Except Fault (Keyed String)
  | [] => .ok args
  | word :: rest =>
    let keyword := Text.lower word
    -- Words behind a free text are never keywords, even if they look it.
    if isFreeText keyword then .ok (args.insert keyword (" ".intercalate rest))
    else match rest with
      | [] => .error (.unreadable line (.missingValue keyword))
      | value :: rest => addArgs line (args.insert keyword value) rest

/-- The keywords of a row of words, with their values. -/
def keywordArgs (ws : List String) (line : String) : Except Fault (Keyed String) :=
  addArgs line .empty ws

/-- Splits off the name of a command, giving the words behind it. -/
def takeName (line : String) : List String → Except Fault (String × List String)
  | [] => .error (.unreadable line .empty)
  | first :: rest =>
    let verb := Text.lower first
    if verb ∈ compoundVerbs then
      match rest with
      | [] => .error (.unreadable line (.missingObject verb))
      | object :: rest => .ok (s!"{verb} " ++ Text.lower object, rest)
    else .ok (verb, rest)

/-- Takes a line apart. -/
def Command.read (line : String) : Except Fault Command := do
  let (name, rest) ← takeName line (← words line)
  let args ← keywordArgs (rest.drop 1) line
  return ⟨name, rest.head?, args, line⟩

/-- The parts of a compound id, which must be of a given number and none of them empty. -/
def splitLocation (value : String) (parts : Int) (line : String) : Except Fault (List String) :=
  let pieces := Text.split ':' value
  if (pieces.length : Int) = parts ∧ pieces.all (!·.isEmpty) then .ok pieces
  else .error (.unreadable line (.badLocation parts value))

namespace Command

/-- The id that a command must give. -/
def id (c : Command) : Except Fault String :=
  match c.target with
  | none | some "" => .error (.unreadable c.line (.missingId c.name))
  | some t => .ok t

/-- The value of a keyword that a command must give. -/
def arg (c : Command) (keyword : String) : Except Fault String :=
  match c.args.get? keyword with
  | some v => .ok v
  | none => .error (.unreadable c.line (.missingArgument keyword c.name))

/-- The value of a keyword, or the empty text. -/
def argOrEmpty (c : Command) (keyword : String) : String := (c.args.get? keyword).getD ""

/-- The value of a keyword that must be a whole number. -/
def integer (c : Command) (keyword : String) : Except Fault Int := do
  let value ← c.arg keyword
  match Number.readInt value with
  | .ok n => .ok n
  | .error _ => .error (.unreadable c.line (.notInteger keyword value))

/-- The value of a keyword that must be a number. -/
def number (c : Command) (keyword : String) : Except Fault Binary64 := do
  let value ← c.arg keyword
  match Number.readDecimal value with
  | some x => .ok x
  | none => .error (.unreadable c.line (.notNumber keyword value))

/-- A text that must name an aisle of a store. -/
def aisleSpot (c : Command) (value : String) : Except Fault AisleSpot := do
  match ← splitLocation value 2 c.line with
  | [store, aisle] => return ⟨store, aisle⟩
  | _ => .error (.unreadable c.line (.badLocation 2 value))

/-- A text that must name a shelf of an aisle of a store. -/
def shelfSpot (c : Command) (value : String) : Except Fault ShelfSpot := do
  match ← splitLocation value 3 c.line with
  | [store, aisle, shelf] => return ⟨store, aisle, shelf⟩
  | _ => .error (.unreadable c.line (.badLocation 3 value))

end Command

end Script

end Shopfloor
