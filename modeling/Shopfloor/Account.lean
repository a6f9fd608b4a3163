import Shopfloor.Fault
import Shopfloor.Keyed
/-!
# Accounts

Those who may use the shop from outside: an address, a password and a name.
An account is found by its address, written exactly as it was registered.

Registering takes no address that is taken, and changing keeps what is not
given. Where there is no account, nothing happens, and the answer says so.

## Main definitions

* `Account`, `Accounts`: The record and the map.
* `Accounts.register`, `Accounts.change`, `Accounts.remove`: The acts on the map.
* `Accounts.standard`: The accounts that a new shop starts with.
-/

namespace Shopfloor

/-- A user of the shop from outside. -/
structure Account where
  email : String
  password : String
  name : String
deriving DecidableEq, Repr

/-- Accounts by their addresses. -/
abbrev Accounts := Keyed Account

namespace Accounts

/-- The accounts that a new shop starts with. -/
def standard : Accounts :=
  .ofList [
    ("admin@store.com", ⟨"admin@store.com", "admin123", "Admin User"⟩),
    ("user@store.com", ⟨"user@store.com", "user123", "Regular User"⟩)]

/-- Writes an account under its address. -/
def put (m : Accounts) (a : Account) : Accounts := m.insert a.email a

/-- The account with these texts, all of which it needs. -/
def make (email password name : Option String) : Except Fault Account :=
  match email, password, name with
  | some e, some p, some n => .ok ⟨e, p, n⟩
  | _, _, _ =>
    .error (.withoutText [("email", email), ("password", password), ("name", name)])

/-- Registers an account, unless its address is taken: the account, and the map afterwards. -/
def register (m : Accounts) (email password name : Option String) :
    Except Fault (Option Account × Accounts) := do
  if (m.find? email).isSome then return (none, m)
  let a ← make email password name
  return (some a, m.put a)

/-- Changes what is given of an account: the account, and the map afterwards. -/
def change (m : Accounts) (email : Option String) (password name : Option String) :
    Option Account × Accounts :=
  match m.find? email with
  | none => (none, m)
  | some a =>
    let a := { a with password := password.getD a.password, name := name.getD a.name }
    (some a, m.put a)

/-- Removes an account: whether there was one, and the map afterwards. -/
def remove (m : Accounts) (email : Option String) : Bool × Accounts :=
  match email with
  | none => (false, m)
  | some e => if m.contains e then (true, m.erase e) else (false, m)

end Accounts

end Shopfloor
