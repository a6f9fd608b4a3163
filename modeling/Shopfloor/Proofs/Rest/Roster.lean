import Shopfloor.Proofs.Rest.Directory
import Shopfloor.Rest.Desk
/-!
# The Roster of Accounts

What can be told of the accounts from outside, as a map that has no passwords.

An account is told by its address and its name. What is asked about the accounts
is an `Errand`, and of a password an errand says only whether one is given: that
decides whether a registration is complete and whether there is anything to
change, and nothing else. `Roster.answer` says what is answered and which roster
is left, and since neither rosters nor errands have passwords, no answer can
depend on one.

That the accounts behind the desk behave as their roster does is what the lemmas
about `Roster.ofAccounts` are for: registering, changing and removing an account
commutes with forgetting the passwords.

## Main definitions

* `Rest.Roster`, `Rest.Roster.ofAccounts`: What can be told of accounts.
* `Rest.Errand`: What can be asked about the accounts.
* `Rest.Roster.answer`, `Rest.Roster.answers`: What is answered.

## Theorems

* `Roster.ofAccounts_put`, `Roster.ofAccounts_erase`: The roster after accounts have changed.
* `Accounts.register_new`, `Accounts.register_taken`: A registration that is complete.
* `Accounts.change_found`, `Accounts.remove_found`: Changing and removing an account.
-/

namespace Shopfloor

namespace Accounts

variable {m : Accounts} {email : String}

/-- An address that is new is registered. -/
theorem register_new (h : m.get? email = none) (password name : String) :
    m.register (some email) (some password) (some name) =
      .ok (some ⟨email, password, name⟩, m.put ⟨email, password, name⟩) := by
  have hfree : ¬ (m.find? (some email)).isSome = true := by
    rw [Keyed.find?_some, h, Option.isSome_none]
    exact Bool.false_ne_true
  unfold register
  rw [if_neg hfree]
  rfl

/-- An address that is taken is not registered again. -/
theorem register_taken {a : Account} (h : m.get? email = some a) (password name : Option String) :
    m.register (some email) password name = .ok (none, m) := by
  have htaken : (m.find? (some email)).isSome = true := by
    rw [Keyed.find?_some, h, Option.isSome_some]
  unfold register
  rw [if_pos htaken]
  rfl

/-- An account that is there keeps what is not given. -/
theorem change_found {a : Account} (h : m.get? email = some a) (password name : Option String) :
    m.change (some email) password name =
      (some { a with password := password.getD a.password, name := name.getD a.name },
        m.put { a with password := password.getD a.password, name := name.getD a.name }) := by
  unfold change
  rw [Keyed.find?_some, h]

/-- Where there is no account, nothing changes. -/
theorem change_absent (h : m.get? email = none) (password name : Option String) :
    m.change (some email) password name = (none, m) := by
  unfold change
  rw [Keyed.find?_some, h]

/-- An account that is there is removed. -/
theorem remove_found {a : Account} (h : m.get? email = some a) :
    m.remove (some email) = (true, m.erase email) := by
  have hthere : m.contains email = true := (Keyed.contains_iff _ _).2 ⟨a, h⟩
  exact if_pos hthere

/-- Where there is no account, nothing is removed. -/
theorem remove_absent (h : m.get? email = none) : m.remove (some email) = (false, m) := by
  have hgone : ¬ m.contains email = true := by
    rw [Bool.not_eq_true, Keyed.contains_eq_false_iff]
    exact h
  exact if_neg hgone

end Accounts

namespace Rest

/-- What can be told of accounts, in the order in which they were registered. -/
abbrev Roster := Keyed AccountSummary

/-- What can be asked about the accounts. Of a password it is said only whether there is one. -/
inductive Errand
  | list
  | register (email : Option String) (password : Bool) (name : Option String)
  | get (email : String)
  | change (email : String) (password : Bool) (name : Option String)
  | remove (email : String)
  /-- A change or a removal, but it is not said of which account. -/
  | unnamed
deriving DecidableEq, Repr

namespace Roster

/-- What can be told of accounts, which are forgotten otherwise. -/
def ofAccounts (accounts : Accounts) : Roster := accounts.mapValues fun _ a => .ofAccount a

/-- The answer to an errand, and the roster afterwards. -/
def answer (m : Roster) : Errand → Answer × Roster
  | .list => (⟨200, some (.accounts m.values)⟩, m)
  | .register (some email) true (some name) =>
    match m.get? email with
    | some _ => (refuse 409 .duplicateEntity "User Already Exists", m)
    | none => (⟨201, some (.account ⟨email, name⟩)⟩, m.insert email ⟨email, name⟩)
  | .register .. => (refuse 400 .invalidArgument "email, password, and name required", m)
  | .get email =>
    match m.get? email with
    | some a => (⟨200, some (.account a)⟩, m)
    | none => (refuse 404 .notFound "User not found", m)
  | .change email password name =>
    if password = false ∧ name = none then
      (refuse 400 .invalidArgument "Need password or name", m)
    else
      match m.get? email with
      | some a =>
        let a := { a with name := name.getD a.name }
        (⟨200, some (.account a)⟩, m.insert a.email a)
      | none => (refuse 404 .notFound "User not found", m)
  | .remove email =>
    match m.get? email with
    | some _ => (⟨200, some (.deleted email)⟩, m.erase email)
    | none => (refuse 404 .notFound "User not found", m)
  | .unnamed => (refuse 400 .invalidArgument "email path parameter required", m)

/-- The answers to errands, one after the other. -/
def answers : Roster → List Errand → List Answer
  | _, [] => []
  | m, q :: qs => (m.answer q).1 :: answers (m.answer q).2 qs

theorem get?_ofAccounts (accounts : Accounts) (email : String) :
    (ofAccounts accounts).get? email = (accounts.get? email).map .ofAccount :=
  Keyed.get?_mapValues _ _ _

theorem get?_ofAccounts_some {accounts : Accounts} {email : String} {a : Account}
    (h : accounts.get? email = some a) :
    (ofAccounts accounts).get? email = some (.ofAccount a) := by
  rw [get?_ofAccounts, h, Option.map_some]

theorem get?_ofAccounts_none {accounts : Accounts} {email : String}
    (h : accounts.get? email = none) : (ofAccounts accounts).get? email = none := by
  rw [get?_ofAccounts, h, Option.map_none]

theorem values_ofAccounts (accounts : Accounts) :
    (ofAccounts accounts).values = accounts.values.map .ofAccount := by
  unfold Keyed.values ofAccounts Keyed.mapValues
  rw [List.map_map, List.map_map]
  rfl

/-- An account that is written, and what can be told of it. -/
theorem ofAccounts_put (accounts : Accounts) (a : Account) :
    ofAccounts (accounts.put a) = (ofAccounts accounts).insert a.email (.ofAccount a) :=
  Keyed.mapValues_insert _ _ _ _

theorem ofAccounts_erase (accounts : Accounts) (email : String) :
    ofAccounts (accounts.erase email) = (ofAccounts accounts).erase email :=
  Keyed.mapValues_erase _ _ _

end Roster

end Rest

end Shopfloor
