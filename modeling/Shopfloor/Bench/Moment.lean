import Shopfloor.Number.Plain
/-!
# Moments

Points in time, as a record keeps them.

What happens on the bench happens at a tick of its own clock, so no two things
happen at once. A moment may also be written down: as a day, as a day and a
time of it, or as the seconds since the year 1970, which are taken for
thousandths if there are too many of them. A time may name its distance from
the prime meridian; without it two moments can still be compared, but not with
one that has it.

## Main definitions

* `Moment`: A tick, or what somebody wrote down.
* `Moment.ofText?`: The moment that a text writes.
* `Moment.ofSeconds`: The moment a number of seconds after the start of 1970.
-/

namespace Shopfloor

/-- A point in time. -/
inductive Moment
  | tick (n : Nat)
  /-- Written down in microseconds, and whether the distance from the meridian is known. -/
  | written (zoned : Bool) (micros : Int)
deriving DecidableEq, Repr

namespace Moment

/-- Whether a year has a leap day. -/
def isLeap (year : Nat) : Bool := year % 4 == 0 && (year % 100 != 0 || year % 400 == 0)

/-- The days of each month. -/
def monthDays (year : Nat) : List Nat :=
  [31, if isLeap year then 29 else 28, 31, 30, 31, 30, 31, 31, 30, 31, 30, 31]

/-- The days before a year. -/
def daysBefore (year : Nat) : Int :=
  year * 365 + (year + 3) / 4 - (year + 99) / 100 + (year + 399) / 400

/-- The days from the start of 1970 to a day, if there is such a day. -/
def days? (year month day : Nat) : Option Int := do
  let lengths := monthDays year
  let length ← if month = 0 then none else lengths[month - 1]?
  if year = 0 ∨ day = 0 ∨ length < day then none
  else
    let passed : Nat := (lengths.take (month - 1)).foldl (· + ·) 0
    some (daysBefore year + passed + day - 1 - daysBefore 1970)

/-- Takes a number of a set count of digits from the front. -/
def takeNumber (count : Nat) (cs : List Char) : Option (Nat × List Char) := do
  let ds ← (cs.take count).mapM Number.plainDigit?
  if ds.length = count then some (Number.ofDigits ds, cs.drop count) else none

/-- Takes a character from the front. -/
def takeMark (marks : List Char) : List Char → Option (List Char)
  | c :: cs => if marks.contains c then some cs else none
  | [] => none

/-- Takes a day from the front. -/
def takeDay (cs : List Char) : Option (Int × List Char) := do
  let (year, cs) ← takeNumber 4 cs
  let (month, cs) ← takeNumber 2 (← takeMark ['-'] cs)
  let (day, cs) ← takeNumber 2 (← takeMark ['-'] cs)
  return (← days? year month day, cs)

/-- Takes hours and minutes from the front, as minutes; the mark between them may be missing. -/
def takeMinutes (cs : List Char) : Option (Nat × List Char) := do
  let (hours, cs) ← takeNumber 2 cs
  let (minutes, cs) ← takeNumber 2 ((takeMark [':'] cs).getD cs)
  if hours < 24 ∧ minutes < 60 then some (hours * 60 + minutes, cs) else none

/-- Takes seconds with their places from the front, as microseconds; they may be missing. -/
def takeSeconds (cs : List Char) : Option (Nat × List Char) :=
  match takeMark [':'] cs with
  | none => some (0, cs)
  | some cs => do
    let (seconds, cs) ← takeNumber 2 cs
    let (places, rest) := match takeMark ['.', ','] cs with
      | some cs => cs.span fun c => (Number.plainDigit? c).isSome
      | none => ([], cs)
    let given := (takeMark ['.', ','] cs).isSome
    if 60 ≤ seconds ∨ (given ∧ places.isEmpty) then none
    else
      let micros := Number.ofDigits (((places ++ List.replicate 6 '0').take 6).filterMap
        Number.plainDigit?)
      some (seconds * 1000000 + micros, rest)

/-- The distance from the meridian in minutes, to the east, if one is named up to the end. -/
def zone? : List Char → Option (Option Int)
  | [] => some none
  | ['Z'] | ['z'] => some (some 0)
  | c :: cs => do
    let (minutes, rest) ← takeMinutes cs
    if !rest.isEmpty then none
    else if c = '+' then some (some minutes)
    else if c = '-' || c = '−' then some (some (-minutes))
    else none

/-- The moment that characters write as a day and a time. -/
def ofDayAndTime? (cs : List Char) : Option Moment := do
  let (days, cs) ← takeDay cs
  if cs.isEmpty then return .written false (days * 86400000000)
  let cs ← takeMark ['T', 't', ' ', '_'] cs
  -- The mark between hours and minutes is needed here.
  let _ ← takeMark [':'] (cs.drop 2)
  let (minutes, cs) ← takeMinutes cs
  let (micros, cs) ← takeSeconds cs
  let zone ← zone? cs
  let micros := days * 86400000000 + minutes * 60000000 + micros
  return .written zone.isSome (micros - zone.getD 0 * 60000000)

/-- The moment a number of seconds after the start of 1970. -/
def ofSeconds (n : Int) : Moment :=
  .written true (if n.natAbs ≤ 20000000000 then n * 1000000 else n * 1000)

/-- The moment that a text writes. -/
def ofText? (s : String) : Option Moment :=
  ofDayAndTime? s.toList <|> (Number.readPlainInt s).toOption.map ofSeconds

end Moment

end Shopfloor
