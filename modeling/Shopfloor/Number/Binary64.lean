import Shopfloor.Number.Power
/-!
# Binary Numbers of 64 Bits

Prices are binary numbers with 53 significant bits. They are held as sign,
significand and exponent, so that everything said of them is said in whole
numbers: a finite number is `m * 2 ^ e`, with `m` below `2 ^ 53` and `e` as
small as the range allows.

A rational number is rounded once, to the nearest such number, a tie going to
the even significand. What lies beyond the range is infinite.

## Main definitions

* `Binary64`: Finite, infinite, or not a number.
* `roundRatio`: A quotient of naturals rounded to the nearest natural.
* `Binary64.ofRatio`: The number nearest to a quotient.
* `Binary64.bits`: The 64 bits of a number.
* `Binary64.isFinite`, `Binary64.belowZero`: The tests that a price has to pass.
-/

namespace Shopfloor

/-- A binary number of 64 bits; a finite one is `significand * 2 ^ exponent`. -/
inductive Binary64
  | finite (negative : Bool) (significand : Nat) (exponent : Int)
  | infinite (negative : Bool)
  /-- The outcome of what has none. It keeps a sign, though nothing can be told from it. -/
  | notANumber (negative : Bool)
deriving DecidableEq, Repr

/-- A quotient of naturals rounded to the nearest natural, a tie to the even one. -/
def roundRatio (num den : Nat) : Nat :=
  let q := num / den
  let r := num % den
  if 2 * r < den then q
  else if den < 2 * r then q + 1
  else if q % 2 = 0 then q else q + 1

namespace Binary64

/-- The exponent of the smallest numbers. -/
def minExponent : Int := -1074

/-- The exponent of the largest numbers. -/
def maxExponent : Int := 971

/-- Numerator and denominator of `num / den` divided by `2 ^ e`. -/
def scaleDown (num den : Nat) (e : Int) : Nat × Nat :=
  if 0 ≤ e then (num, den * twoTo e.toNat) else (num * twoTo (-e).toNat, den)

/-- The exponent at which a positive quotient has 53 significant bits, or the least one there is. -/
def exponentOf (num den : Nat) : Int :=
  let guess : Int := (Nat.log2 num : Int) - (Nat.log2 den : Int) - 52
  let (n, d) := scaleDown num den guess
  max minExponent (if n / d < twoTo 52 then guess - 1 else guess)

/-- The number nearest to a quotient, a tie going to the even significand. -/
def ofRatio (negative : Bool) (num den : Nat) : Binary64 :=
  if num = 0 then .finite negative 0 minExponent
  else
    let e := exponentOf num den
    let (n, d) := scaleDown num den e
    let m := roundRatio n d
    -- Rounding up can reach the next power of two, which has an exponent of its own.
    let (m, e) := if m = twoTo 53 then (twoTo 52, e + 1) else (m, e)
    if maxExponent < e then .infinite negative else .finite negative m e

/-- The number nearest to `coefficient * 10 ^ exponent`. Beyond four hundred places on either side
    nothing but the size matters. -/
def ofScientific (negative : Bool) (coefficient : Nat) (exponent : Int) : Binary64 :=
  let places : Int := (toString coefficient).length + exponent
  if coefficient = 0 then ofRatio negative 0 1
  else if 400 < places then .infinite negative
  else if places < -400 then ofRatio negative 0 1
  else if 0 ≤ exponent then ofRatio negative (coefficient * tenTo exponent.toNat) 1
  else ofRatio negative coefficient (tenTo (-exponent).toNat)

/-- The number nearest to a whole number. -/
def ofInt (n : Int) : Binary64 := ofRatio (n < 0) n.natAbs 1

/-- Whether a number is neither infinite nor undefined. -/
def isFinite : Binary64 → Bool
  | .finite .. => true
  | _ => false

/-- Whether a number is less than zero; negative zero is not. -/
def belowZero : Binary64 → Bool
  | .finite negative m _ => negative && m != 0
  | .infinite negative => negative
  | .notANumber _ => false

/-- Whether a number is at least zero, which what is no number never is. -/
def atLeastZero : Binary64 → Bool
  | .notANumber _ => false
  | x => !x.belowZero

/-- The 64 bits of a number, as a natural. -/
def bits : Binary64 → Nat
  | .finite negative m e =>
    (if negative then twoTo 63 else 0) +
      (if m < twoTo 52 then m else (e + 1074).toNat * twoTo 52 + m)
  | .infinite negative => (if negative then twoTo 63 else 0) + 2047 * twoTo 52
  | .notANumber negative => (if negative then twoTo 63 else 0) + 2047 * twoTo 52 + twoTo 51

end Binary64

end Shopfloor
