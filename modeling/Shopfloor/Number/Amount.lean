import Shopfloor.Number.Binary64
/-!
# Amounts

Numbers of which some are whole and some are binary, as a loosely kept record
holds them.

Two amounts are compared by their exact values, whichever sort they are of, so
a whole number that no binary number can hold still has its place between two
of them. What is no number has no place and compares with nothing.

Whole numbers add up to a whole number. As soon as a binary number is added,
the sum is binary and rounded once. A whole number beyond the range of binary
numbers cannot take part in that, and the sum is missing.

## Main definitions

* `Binary64.add`: The sum of two binary numbers.
* `Binary64.whole?`: The whole number that a binary number is.
* `Amount`: A whole number or a binary one.
* `Amount.order?`: How two amounts compare.
* `Amount.add?`, `Amount.subtract?`: Sum and difference.
-/

namespace Shopfloor

namespace Binary64

/-- What `m * 2 ^ e` is with its sign, counted in units of `2 ^ low`. -/
def inUnits (negative : Bool) (m : Nat) (e low : Int) : Int :=
  let n : Int := m * twoTo (e - low).toNat
  if negative then -n else n

/-- The number nearest to `n * 2 ^ e`. -/
def ofUnits (n e : Int) : Binary64 :=
  if 0 ≤ e then ofRatio (n < 0) (n.natAbs * twoTo e.toNat) 1
  else ofRatio (n < 0) n.natAbs (twoTo (-e).toNat)

/-- The sum of two numbers, rounded once. A sum of zero is negative only if both zeros are. -/
def add : Binary64 → Binary64 → Binary64
  | .notANumber s, _ => .notANumber s
  | _, .notANumber s => .notANumber s
  | .infinite s, .infinite t => if s = t then .infinite s else .notANumber true
  | .infinite s, _ => .infinite s
  | _, .infinite t => .infinite t
  | .finite s m e, .finite t n f =>
    let low := min e f
    let sum := inUnits s m e low + inUnits t n f low
    if sum = 0 then .finite (s && t) 0 minExponent else ofUnits sum low

/-- A number with the other sign; what is no number stays as it is. -/
def negate : Binary64 → Binary64
  | .finite s m e => .finite (!s) m e
  | .infinite s => .infinite (!s)
  | .notANumber s => .notANumber s

/-- The whole number that a number is, if it is one. -/
def whole? : Binary64 → Option Int
  | .finite s m e =>
    if 0 ≤ e then some (inUnits s m e 0)
    else if m % twoTo (-e).toNat = 0 then some (inUnits s (m / twoTo (-e).toNat) 0 0)
    else none
  | _ => none

end Binary64

/-- A whole number or a binary one. -/
inductive Amount
  | whole (n : Int)
  | binary (x : Binary64)
deriving DecidableEq, Repr

namespace Amount

/-- A place on the line of numbers: at `n * 2 ^ e`, or beyond all of them. -/
inductive Point
  | at (n e : Int)
  | beyond (negative : Bool)
deriving DecidableEq, Repr

/-- Where an amount lies, if it lies anywhere. -/
def point? : Amount → Option Point
  | .whole n => some (.at n 0)
  | .binary (.finite s m e) => some (.at (Binary64.inUnits s m 0 0) e)
  | .binary (.infinite s) => some (.beyond s)
  | .binary (.notANumber _) => none

/-- How two places compare. -/
def Point.order : Point → Point → Ordering
  | .at n e, .at m f =>
    let low := min e f
    compare (n * twoTo (e - low).toNat) (m * twoTo (f - low).toNat)
  | .at _ _, .beyond negative => if negative then .gt else .lt
  | .beyond negative, .at _ _ => if negative then .lt else .gt
  | .beyond s, .beyond t => if s = t then .eq else if s then .lt else .gt

/-- How two amounts compare, if they do. -/
def order? (a b : Amount) : Option Ordering := do
  return (← a.point?).order (← b.point?)

/-- Whether two amounts are equal in value. -/
def sameValue (a b : Amount) : Bool := a.order? b == some .eq

/-- Whether an amount is less than another. -/
def less (a b : Amount) : Bool := a.order? b == some .lt

/-- Whether an amount is zero. -/
def isZero (a : Amount) : Bool := a.sameValue (.whole 0)

/-- An amount as a binary number, if it lies within their range. -/
def toBinary? : Amount → Option Binary64
  | .whole n => some (Binary64.ofInt n) |>.filter Binary64.isFinite
  | .binary x => some x

/-- The sum of two amounts. -/
def add? : Amount → Amount → Option Amount
  | .whole n, .whole m => some (.whole (n + m))
  | a, b => do return .binary ((← a.toBinary?).add (← b.toBinary?))

/-- The difference of two amounts. -/
def subtract? : Amount → Amount → Option Amount
  | .whole n, .whole m => some (.whole (n - m))
  | a, b => do return .binary ((← a.toBinary?).add (← b.toBinary?).negate)

end Amount

end Shopfloor
