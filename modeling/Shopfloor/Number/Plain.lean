import Shopfloor.Number.Decimal
import Shopfloor.Text.Split
/-!
# Plain Numerals

Numbers as a strict reader takes them, in the ten ASCII digits alone.

A whole number may have a sign, blanks around it, single underscores between
its digits, and behind a point nothing but zeros. A decimal number may also
have digits behind the point and an exponent, or be a word for infinity or for
what is no number. Its underscores are read past only if they stand one by one
inside it, and then no blanks may stand around it.

## Main definitions

* `readPlainInt`: The whole number that a plain text writes.
* `readPlainDecimal`: The number that a plain text writes.
-/

namespace Shopfloor

namespace Number

/-- The value of an ASCII digit. -/
def plainDigit? (c : Char) : Option Nat :=
  if '0' ≤ c ∧ c ≤ '9' then some (c.toNat - '0'.toNat) else none

/-- Characters without their underscores, which must stand one by one and not at an end. -/
def withoutUnderscores? (cs : List Char) : Option (List Char) :=
  let pieces := Text.splitChars '_' cs
  if pieces.all (!·.isEmpty) then some pieces.flatten else none

/-- The digits of plain characters, of which there must be one. -/
def plainDigits? (cs : List Char) : Option (List Nat) :=
  if cs.isEmpty then none else cs.mapM plainDigit?

/-- The whole number that a plain text writes. -/
def readPlainInt (s : String) : Except Flaw Int :=
  let (negative, body) := takeSign (stripMargin s.toList)
  let (whole, places) := (Text.cutFirst '.' body).getD (body, [])
  match (withoutUnderscores? whole).bind plainDigits? with
  | some ds =>
    if digitLimit < s.length then .error (.tooLong s.length)
    else if places.all (· = '0') then
      .ok (if negative then -(ofDigits ds : Int) else (ofDigits ds : Int))
    else .error .malformed
  | none => .error .malformed

/-- The number that plain characters write, blanks and underscores not allowed. -/
def readPlainChars (cs : List Char) : Option Binary64 :=
  if cs.all fun c => c.toNat < 128 && c != '_' && !isMargin c then readDecimal (String.ofList cs)
  else none

/-- The number that a plain text writes. -/
def readPlainDecimal (s : String) : Option Binary64 :=
  readPlainChars (stripMargin s.toList) <|> (withoutUnderscores? s.toList).bind readPlainChars

end Number

end Shopfloor
