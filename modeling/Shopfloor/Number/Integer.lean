import Shopfloor.Number.Digit
import Shopfloor.Number.Power
import Shopfloor.Text.Blank
/-!
# Integers as Text

Whole numbers are read with an optional sign, in the digits of any script,
with single underscores between digits, and with blanks around them. The
information separators are blanks in a sentence but not around a number.

A numeral may have at most 4300 digits, underscores not counted and leading
zeros counted; the same bound holds for writing. It does not bound the numbers
that the shop holds. So whatever is written with a number in it can fail for
the number: inventories and baskets in words, the words for a refusal, and the
lines that tell of what was done.

## Main definitions

* `digitLimit`: The longest numeral.
* `takeDigits`: A run of digits at the front of a text.
* `readInt`: The whole number that a text writes.
* `writable`: Whether a number can be written.
* `signed`: A number written with its sign in any case.
-/

namespace Shopfloor

namespace Number

/-- The longest numeral that is read or written, in digits. -/
def digitLimit : Nat := 4300

/-- Blanks that may stand around a number. -/
def isMargin (c : Char) : Bool :=
  (9 ≤ c.toNat && c.toNat ≤ 13) || c.toNat == 32 || Text.isWideBlank c

/-- A text without the blanks around its number. -/
def stripMargin (cs : List Char) : List Char := Text.trimBoth isMargin cs

/-- Takes a sign from the front: whether it is a minus, and the rest. -/
def takeSign : List Char → Bool × List Char
  | '+' :: cs => (false, cs)
  | '-' :: cs => (true, cs)
  | cs => (false, cs)

/-- Takes a run of digits from the front, given the digits so far, last one first. Underscores stand
    only between two digits; `due` says that a digit has to come next. -/
def takeDigitsFrom (taken : List Nat) (due : Bool) : List Char → Option (List Nat × List Char)
  | [] => if due then none else some (taken.reverse, [])
  | c :: cs =>
    match digit? c with
    | some d => takeDigitsFrom (d :: taken) false cs
    | none =>
      if due then none
      else if c = '_' then takeDigitsFrom taken true cs
      else some (taken.reverse, c :: cs)

/-- Takes a run of at least one digit from the front. -/
def takeDigits (cs : List Char) : Option (List Nat × List Char) := takeDigitsFrom [] true cs

/-- The number that decimal digits write. -/
def ofDigits (ds : List Nat) : Nat := ds.foldl (fun n d => n * 10 + d) 0

/-- Why a text is no whole number. -/
inductive Flaw
  /-- It does not have the form of one. -/
  | malformed
  /-- It has more digits than are read. -/
  | tooLong (digits : Nat)
deriving DecidableEq, Repr

/-- The whole number that a text writes. -/
def readInt (s : String) : Except Flaw Int :=
  let (negative, body) := takeSign (stripMargin s.toList)
  match takeDigits body with
  | none => .error .malformed
  | some (ds, rest) =>
    if digitLimit < ds.length then .error (.tooLong ds.length)
    else if rest.isEmpty then
      .ok (if negative then -(ofDigits ds : Int) else (ofDigits ds : Int))
    else .error .malformed

/-- Whether a number has few enough digits to be written. -/
def writable (n : Int) : Bool := n.natAbs < tenTo digitLimit

/-- A number with its sign, a plus included. -/
def signed (n : Int) : String := if n < 0 then toString n else "+" ++ toString n

end Number

end Shopfloor
