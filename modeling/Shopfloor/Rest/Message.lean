import Shopfloor.Account
import Shopfloor.Store
/-!
# Requests and Answers

What is asked of the shop from outside, and what it answers.

A request names a path and may carry parameters; of a parameter that is given
more than once the last counts. An answer has a status and mostly a body. A
store is answered as a summary, which lists the ids of what is in it in order,
and an account without its password.

## Main definitions

* `Rest.Request`, `Rest.Request.param`: What is asked.
* `Rest.StoreSummary`, `Rest.AccountSummary`: What is told of records.
* `Rest.Body`, `Rest.Answer`: What is answered.
* `Rest.statusOf`: The status for a kind of failure.
-/

namespace Shopfloor

namespace Rest

/-- What is asked from outside. -/
structure Request where
  method : String
  /-- The path as it travels, percent-encoded. -/
  path : String
  params : List (String × String)
deriving DecidableEq, Repr

/-- The value of a parameter. -/
def Request.param (r : Request) (name : String) : Option String := r.params.reverse.lookup name

/-- What is told of a store. -/
structure StoreSummary where
  id : String
  description : String
  address : String
  aisles : List String
  inventory : List String
  customers : List String
  baskets : List String
  devices : List String
deriving DecidableEq, Repr

/-- The summary of a store. -/
def StoreSummary.ofStore (s : Store) : StoreSummary where
  id := s.id
  description := s.description
  address := s.address
  aisles := s.aisles.sortedKeys
  inventory := s.inventory.sortedKeys
  customers := s.customers.sortedKeys
  baskets := s.baskets.sortedKeys
  devices := s.devices.sortedKeys

/-- What is told of an account. -/
structure AccountSummary where
  email : String
  name : String
deriving DecidableEq, Repr

/-- The summary of an account. -/
def AccountSummary.ofAccount (a : Account) : AccountSummary := ⟨a.email, a.name⟩

/-- What an answer says. -/
inductive Body
  | health (status service : String)
  /-- Nothing could be done with the path or the method. -/
  | detail (text : String)
  | refusal (error message : String)
  | store (s : StoreSummary)
  | stores (l : List StoreSummary)
  | account (a : AccountSummary)
  | accounts (l : List AccountSummary)
  | deleted (email : String)
deriving DecidableEq, Repr

/-- What is answered. -/
structure Answer where
  status : Nat
  body : Option Body
deriving DecidableEq, Repr

/-- The refusal of a request. -/
def refuse (status : Nat) (kind : Kind) (message : String) : Answer :=
  ⟨status, some (.refusal kind.name message)⟩

/-- The status for a kind of failure. -/
def statusOf : Kind → Nat
  | .notFound => 404
  | .duplicateEntity => 409
  | .invalidArgument => 400
  | .preconditionFailed => 412
  | .unsupportedOperation => 405
  | .parseError => 400
  | .general | .ioFailure => 400

/-- The answer that a fault of the shop gets. A fault that is no failure has no words for the
    outside. -/
def answerFault : Fault → Answer
  | .failure action cause =>
    let r := cause.report action
    refuse (statusOf r.kind) r.kind r.message
  | .badRecord _ | .badValue _ => ⟨500, some (.detail "Internal Server Error")⟩

end Rest

end Shopfloor
