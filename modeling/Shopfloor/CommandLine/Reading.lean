import Shopfloor.Keyed
import Shopfloor.Number.Integer
import Shopfloor.Text.Quoted
import Shopfloor.Text.Split
/-!
# Reading a Command Line

Which of the words given to a program are flags, which are values of flags,
and which are operands.

A flag is written with two dashes and its name, or the beginning of its name
as long as no other flag begins the same way. A value follows as the next word
or, behind an equals sign, in the same word. A word that begins with a dash is
no flag if it is a dash alone, a negative number, or holds a space and names
nothing; a single `--` ends the flags, and every word behind it is an operand.

Help is a flag of every program and ends the reading where it stands. Its
short form `-h` may have further letters glued to it, with or without an
equals sign in between, which are read as short flags in turn; since help is
the only one, whatever else is glued makes no sense.

A value behind an equals sign may be anything, but the separator `--` is taken
out of it as it is out of operands. What is left is a list of no values, which
passes for a value of any sort and is written as an empty list is.

All words are sorted before any is read, so a name that could be two flags is
found wrong before anything else happens.

## Main definitions

* `CommandLine.Flag`, `CommandLine.Grammar`: What a program takes.
* `CommandLine.Mark`, `CommandLine.marks`: What each word is.
* `CommandLine.Reading`: What was read.
* `CommandLine.Grammar.read`: Reads the words of a program.
-/

namespace Shopfloor

namespace CommandLine

/-- Why reading ends early. -/
inductive Stop
  /-- Help was asked for. -/
  | help
  /-- The words do not make sense. -/
  | misuse
deriving DecidableEq, Repr

/-- What a flag takes. -/
inductive Takes
  | nothing
  | text
  | integer
deriving DecidableEq, Repr

/-- A flag, by its name without dashes. -/
structure Flag where
  name : String
  takes : Takes
deriving DecidableEq, Repr

/-- What a program takes besides flags. -/
inductive Operands
  | none
  | one
  /-- The first operand and everything behind it, flags or not. -/
  | rest
deriving DecidableEq, Repr

/-- What a program takes. -/
structure Grammar where
  flags : List Flag
  operands : Operands
deriving DecidableEq, Repr

/-- What a word is. -/
inductive Mark
  | operand
  | separator
  | flag (f : Flag) (value : Option String)
  /-- A word that ends the reading when it is reached. -/
  | stop (why : Stop)
  /-- A flag that the program does not know. -/
  | unknown
deriving DecidableEq, Repr

/-- The word that ends the flags. -/
def separator : String := "--"

/-- The name of the flag that asks for help. -/
def helpName : String := "help"

/-- What comes of letters glued to the short flag for help. -/
def gluedHelp (cs : List Char) : Stop :=
  let letters := match cs with
    | '=' :: c :: cs => c :: cs
    | cs => cs
  if letters.all (· = 'h') then .help else .misuse

/-- Whether characters, but for a line break at their end, are digits and at least `least` of
    them. -/
def areDigits (least : Nat) (cs : List Char) : Bool :=
  let cs := if cs.getLast? = some '\n' then cs.dropLast else cs
  least ≤ cs.length && cs.all fun c => (Number.digit? c).isSome

/-- Whether a word behind its dash is a number: digits, or a point with digits behind it. -/
def isNumeral (cs : List Char) : Bool :=
  areDigits 1 cs || match Text.cutFirst '.' cs with
    | some (whole, part) => (whole.all fun c => (Number.digit? c).isSome) && areDigits 1 part
    | none => false

/-- What a word is that begins with a dash and names no flag. -/
def markNameless (word : List Char) : Mark :=
  if isNumeral (word.drop 1) || word.contains ' ' then .operand else .unknown

/-- What a word is that names a flag, perhaps with a value. -/
def markNamed (flags : List Flag) (name : String) (value : Option String) : Mark :=
  if name = helpName then .stop (if value.isNone then .help else .misuse)
  else match flags.find? fun f => f.name == name with
    | some f => if f.takes = .nothing ∧ value.isSome then .stop .misuse else .flag f value
    | none => .unknown

/-- Splits a word behind its dashes into a name and a value. -/
def nameAndValue (cs : List Char) : String × Option String :=
  match Text.cutFirst '=' cs with
  | some (name, value) => (String.ofList name, some (String.ofList value))
  | none => (String.ofList cs, none)

/-- What a word with two dashes is; it must not begin the names of two flags. -/
def markLong (flags : List Flag) (word : List Char) : Except Stop Mark :=
  let names := helpName :: flags.map (·.name)
  let (name, value) := nameAndValue (word.drop 2)
  if names.contains name then .ok (markNamed flags name value)
  else match names.filter fun n => name.toList.isPrefixOf n.toList with
    | [] => .ok (markNameless word)
    | [n] => .ok (markNamed flags n value)
    | _ => .error .misuse

/-- What a word is in front of the separator. -/
def mark (flags : List Flag) (word : List Char) : Except Stop Mark :=
  match word with
  | '-' :: '-' :: _ => markLong flags word
  | '-' :: 'h' :: cs => .ok (.stop (gluedHelp cs))
  | '-' :: _ :: _ => .ok (markNameless word)
  | _ => .ok .operand

/-- What each word is. -/
def marks (flags : List Flag) : List String → Except Stop (List (String × Mark))
  | [] => .ok []
  | word :: rest =>
    if word = separator then .ok ((word, .separator) :: rest.map (·, .operand))
    else do
      let m ← mark flags word.toList
      return (word, m) :: (← marks flags rest)

/-- What was read of a command line. -/
structure Reading where
  /-- The flags that were given, with their last values; a flag without one has the empty text. -/
  given : Keyed String
  /-- The operand, with what came behind it if the program takes everything. -/
  operand : Option (List String)
  /-- Whether there were words that mean nothing to the program. -/
  strays : Bool
deriving DecidableEq, Repr

/-- A reading before the first word. -/
def Reading.fresh : Reading := ⟨.empty, none, false⟩

/-- Takes down a flag. -/
def Reading.give (r : Reading) (f : Flag) (value : String) : Except Stop Reading :=
  if f.takes = .integer ∧ !(Number.readInt value).isOk then .error .misuse
  else .ok { r with given := r.given.insert f.name value }

/-- How a list of no values is written. -/
def noValues : String := Text.enlist []

/-- Takes down a flag with a value that stands behind an equals sign. -/
def Reading.giveGlued (r : Reading) (f : Flag) (value : String) : Except Stop Reading :=
  if value = separator then .ok { r with given := r.given.insert f.name noValues }
  else r.give f value

/-- Passes over a word that means nothing. -/
def Reading.stray (r : Reading) : Reading := { r with strays := true }

/-- Whether an operand may come. -/
def Grammar.awaits (g : Grammar) (r : Reading) : Bool :=
  g.operands != .none && r.operand.isNone

/-- Reads marked words. -/
def Grammar.readMarked (g : Grammar) (r : Reading) : List (String × Mark) → Except Stop Reading
  | [] => .ok r
  | (_, .stop why) :: _ => .error why
  | (_, .unknown) :: rest => g.readMarked r.stray rest
  | (_, .flag f (some value)) :: rest => do g.readMarked (← r.giveGlued f value) rest
  | (_, .flag f none) :: rest =>
    if f.takes = .nothing then do g.readMarked (← r.give f "") rest
    else match rest with
      | (value, .operand) :: rest => do g.readMarked (← r.give f value) rest
      | _ => .error .misuse
  | (word, .operand) :: rest =>
    if g.awaits r then
      -- Everything behind a verb belongs to it.
      if g.operands = .rest then .ok { r with operand := some (word :: rest.map (·.1)) }
      else match rest with
        -- A separator right behind an operand is used up with it.
        | (_, .separator) :: rest => g.readMarked { r with operand := some [word] } rest
        | rest => g.readMarked { r with operand := some [word] } rest
    else g.readMarked r.stray rest
  | (word, .separator) :: rest =>
    match rest with
    | (next, _) :: rest =>
      if g.awaits r then
        if g.operands = .rest then
          .ok { r with operand := some (word :: next :: rest.map (·.1)) }
        else g.readMarked { r with operand := some [next] } rest
      else g.readMarked r.stray rest
    | [] => .ok r.stray

/-- Reads the words of a program. -/
def Grammar.read (g : Grammar) (words : List String) : Except Stop Reading := do
  g.readMarked .fresh (← marks g.flags words)

end CommandLine

end Shopfloor
