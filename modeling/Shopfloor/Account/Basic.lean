import Shopfloor.Account
import Shopfloor.Fault
import Shopfloor.Text.Base64
import Shopfloor.Text.Split
import Shopfloor.Text.Utf8
/-!
# Basic Authentication

Who a caller is, by the header of a request. The header names the scheme, then
gives address and password joined by a colon, as UTF-8 in base 64. The first
colon ends the address, so a password may hold colons and an address may not.

A header that does not have this form names nobody. Only one thing is refused
outright: credentials in which a character is outside ASCII, since base 64 has
no meaning for it.

## Main definitions

* `Basic.scheme`: What a header begins with.
* `Basic.credentials`: The address and the password in a header.
* `Accounts.authenticate`: The account that a header opens.
-/

namespace Shopfloor

namespace Basic

/-- What a header begins with. -/
def scheme : List Char := "Basic ".toList

/-- What a header gives after the name of the scheme. -/
def payload? (header : List Char) : Option (List Char) :=
  if scheme.isPrefixOf header then some (header.drop scheme.length) else none

/-- The address and the password that characters in base 64 hold. -/
def credentials? (payload : List Char) : Option (String × String) := do
  let bytes ← Base64.decode payload
  let text ← (Utf8.decode bytes).toOption
  let (email, password) ← Text.cutFirst ':' text
  return (String.ofList email, String.ofList password)

/-- The address and the password in a header, if it has any. -/
def credentials (header : Option String) : Except Fault (Option (String × String)) :=
  match header.bind fun h => payload? h.toList with
  | none => .ok none
  | some payload =>
    if payload.all fun c => c.toNat < 128 then .ok (credentials? payload)
    else .error (.badValue .foreignHeader)

end Basic

/-- The account that a header opens. -/
def Accounts.authenticate (m : Accounts) (header : Option String) :
    Except Fault (Option Account) := do
  match ← Basic.credentials header with
  | none => return none
  | some (email, password) => return (m.get? email).filter fun a => a.password == password

end Shopfloor
