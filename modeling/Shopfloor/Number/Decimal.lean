import Shopfloor.Number.Binary64
import Shopfloor.Number.Integer
/-!
# Decimal Text

How a price is read and how it is written.

Read are an optional sign, digits of any script with an optional point and an
optional exponent, or a word for infinity or for what is no number, in any
case and with blanks around it.

Two texts are written. On a price tag the exact value is rounded to two
places, a tie to the even digit. In a message the price has the fewest digits
that read back as the same number, and of those the nearest: positionally
while the exponent of the leading digit lies from -4 to 15, else with a signed
exponent of at least two digits.

## Main definitions

* `readDecimal`: The number that a text writes.
* `writePlaces`: A number with a set count of places.
* `shortestDigits`: The fewest digits that read back.
* `writeShortest`: A number with those digits.
-/

namespace Shopfloor

namespace Number

/-- Takes an optional run of digits from the front; a run that breaks off is an error. -/
def takeSomeDigits : List Char → Option (List Nat × List Char)
  | [] => some ([], [])
  | c :: cs => if (digit? c).isSome then takeDigits (c :: cs) else some ([], c :: cs)

/-- Takes an exponent from the front, up to the end of the text. -/
def takeExponent : List Char → Option Int
  | [] => some 0
  | c :: cs =>
    if c = 'e' || c = 'E' then
      let (negative, body) := takeSign cs
      match takeDigits body with
      | some (ds, []) => some (if negative then -(ofDigits ds : Int) else (ofDigits ds : Int))
      | _ => none
    else none

/-- A finite number without its sign: coefficient and exponent of ten. -/
def readFinite (cs : List Char) : Option (Nat × Int) := do
  let (whole, rest) ← takeSomeDigits cs
  let (places, rest) ← match rest with
    | '.' :: rest => takeSomeDigits rest
    | rest => some ([], rest)
  let exponent ← takeExponent rest
  if whole.isEmpty && places.isEmpty then none
  else some (ofDigits (whole ++ places), exponent - places.length)

/-- The number that a text writes, if it writes one. -/
def readDecimal (s : String) : Option Binary64 :=
  let (negative, body) := takeSign (stripMargin s.toList)
  let word := String.ofList (body.map Char.toLower)
  if word = "inf" || word = "infinity" then some (.infinite negative)
  else if word = "nan" then some (.notANumber negative)
  else (readFinite body).map fun (c, e) => Binary64.ofScientific negative c e

/-- Digits in front of which zeros bring the count to `width`. -/
def padZeros (width : Nat) (ds : String) : String :=
  String.ofList (List.replicate (width - ds.length) '0') ++ ds

/-- The texts of numbers that have no digits. -/
def writeSpecial : Binary64 → String
  | .infinite negative => if negative then "-inf" else "inf"
  | _ => "nan"

/-- A number with a set count of places, its exact value rounded with ties to even. -/
def writePlaces (places : Nat) : Binary64 → String
  | .finite negative m e =>
    let (n, d) :=
      if 0 ≤ e then (m * twoTo e.toNat * tenTo places, 1)
      else (m * tenTo places, twoTo (-e).toNat)
    let ds := (padZeros (places + 1) (toString (roundRatio n d))).toList
    let cut := ds.length - places
    (if negative then "-" else "") ++ String.ofList (ds.take cut ++ '.' :: ds.drop cut)
  | x => writeSpecial x

/-- Whether `c * 10 ^ g` lies in the interval of numbers that round to `m * 2 ^ e`. Both are
    compared in quarters of `2 ^ e`; the ends belong to the interval when `m` is even. -/
def readsBack (m : Nat) (e : Int) (c : Nat) (g : Int) : Bool :=
  let below := if m = twoTo 52 && Binary64.minExponent < e then 4 * m - 1 else 4 * m - 2
  let above := 4 * m + 2
  let left := c * (if 0 ≤ g then tenTo g.toNat else 1) *
    (if 0 ≤ e - 2 then 1 else twoTo (2 - e).toNat)
  let right := (if 0 ≤ g then 1 else tenTo (-g).toNat) *
    (if 0 ≤ e - 2 then twoTo (e - 2).toNat else 1)
  if m % 2 = 0 then below * right ≤ left && left ≤ above * right
  else below * right < left && left < above * right

/-- Drops the zeros at the end of a positive coefficient; `fuel` bounds their number. -/
def dropZeros : Nat → Nat → Int → Nat × Int
  | 0, c, g => (c, g)
  | fuel + 1, c, g => if c ≠ 0 ∧ c % 10 = 0 then dropZeros fuel (c / 10) (g + 1) else (c, g)

/-- The fewest digits that read back as a positive number, with their exponent of ten. -/
def shortestDigits (m : Nat) (e : Int) : Nat × Int :=
  let ratio (g : Int) : Nat × Nat :=
    (m * (if 0 ≤ e then twoTo e.toNat else 1) * (if 0 ≤ g then 1 else tenTo (-g).toNat),
      (if 0 ≤ e then 1 else twoTo (-e).toNat) * (if 0 ≤ g then tenTo g.toNat else 1))
  let (n, d) := ratio (-400)
  let scale : Int := (toString (n / d)).length - 400
  let tryWith (count : Nat) : Option (Nat × Int) :=
    let g := scale - count
    let (n, d) := ratio g
    let c := n / d
    match readsBack m e c g, readsBack m e (c + 1) g with
    | true, true => some (roundRatio n d, g)
    | true, false => some (c, g)
    | false, true => some (c + 1, g)
    | false, false => none
  let (c, g) := ((List.range 17).findSome? fun i => tryWith (i + 1)).getD (ratio (-400) |>.1, -400)
  dropZeros 20 c g

/-- Digits laid out with the point after the digit of exponent zero, or with an exponent. -/
def layOut (ds : List Char) (lead : Int) : String :=
  if -4 ≤ lead ∧ lead < 16 then
    if lead < 0 then
      "0." ++ String.ofList (List.replicate (-lead - 1).toNat '0' ++ ds)
    else
      let whole := lead.toNat + 1
      let head := ds.take whole ++ List.replicate (whole - ds.length) '0'
      let tail := if ds.length ≤ whole then ['0'] else ds.drop whole
      String.ofList (head ++ '.' :: tail)
  else
    let tail := ds.drop 1
    String.ofList (ds.take 1 ++ (if tail.isEmpty then [] else '.' :: tail)) ++ "e"
      ++ (if lead < 0 then "-" else "+") ++ padZeros 2 (toString lead.natAbs)

/-- A number with the fewest digits that read back. -/
def writeShortest : Binary64 → String
  | .finite negative m e =>
    let sign := if negative then "-" else ""
    if m = 0 then sign ++ "0.0"
    else
      let (c, g) := shortestDigits m e
      let ds := (toString c).toList
      sign ++ layOut ds (g + ds.length - 1)
  | x => writeSpecial x

end Number

end Shopfloor
