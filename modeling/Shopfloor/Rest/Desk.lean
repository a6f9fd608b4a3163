import Shopfloor.Premises
import Shopfloor.Rest.Framework
import Shopfloor.Shop.Operation
/-!
# The Desk

Where requests are answered.

The desk holds the shop and the accounts. Either may be missing, and the first
request that needs one that is missing opens both anew. Every operation of the
shop is asked for with the token of the desk; listing stores, and finding out
whether there is a store, takes none. Accounts take no token at all.

What a request lacks is refused before it is looked up whether the thing it is
about exists.

## Main definitions

* `Rest.Desk`: The shop, the accounts and the token.
* `Rest.Step`: Answering a request.
* `Rest.storeEndpoint`, `Rest.accountEndpoint`: The answers by resource and method.
* `Rest.Framework.answer`: The answer to a request, and the desk afterwards.
* `Rest.answer`: The same for a client within the process.
-/

namespace Shopfloor

namespace Rest

/-- Where requests are answered. -/
structure Desk where
  token : Option String
  shop : Option Shop
  accounts : Option Accounts
deriving DecidableEq, Repr

/-- Answering a request. -/
abbrev Step := StateM Desk

/-- Opens shop and accounts anew. -/
def openAnew : Step Premises := do
  let p := Premises.opened
  modify fun d => { d with shop := some p.shop, accounts := some p.accounts }
  return p

/-- The shop, opened if it is missing. -/
def theShop : Step Shop := do
  match (← get).shop with
  | some s => return s
  | none => return (← openAnew).shop

/-- The accounts, opened if they are missing. -/
def theAccounts : Step Accounts := do
  match (← get).accounts with
  | some m => return m
  | none => return (← openAnew).accounts

/-- Keeps accounts. -/
def keepAccounts (m : Accounts) : Step Unit := modify fun d => { d with accounts := some m }

/-- Asks the shop for an operation. -/
def ask (op : Operation) : Step (Except Fault Reply) := do
  let (reply, shop) := Shop.run (← get).token op (← theShop)
  modify fun d => { d with shop := some shop }
  return reply

/-- The answer that tells of a store. -/
def tellStore (status : Nat) : Except Fault Reply → Answer
  | .ok (.store s) => ⟨status, some (.store (.ofStore s))⟩
  | .ok _ => ⟨status, none⟩
  | .error e => answerFault e

/-- There is no such store. -/
def noStore : Answer := refuse 404 .notFound "Store Does Not Exist"

/-- There is no such account. -/
def noAccount : Answer := refuse 404 .notFound "User not found"

/-- Goes on if there is a store under an id. -/
def withStore (id : String) (next : Step Answer) : Step Answer := do
  if (← theShop).stores.contains id then next else return noStore

/-- Opens a store. -/
def postStore (r : Request) : Step Answer := do
  let _ ← theShop
  match r.param "storeId", r.param "name", r.param "address" with
  | some id, some name, some address =>
    match ← ask (.provisionStore id name address) with
    | .error (.failure _ (.present ..)) =>
      return refuse 400 .duplicateEntity "Store Already Exists"
    | reply => return tellStore 201 reply
  | _, _, _ => return refuse 400 .invalidArgument "storeId, name, and address required"

/-- Changes a store. -/
def putStore (r : Request) (id : String) : Step Answer := do
  let _ ← theShop
  let description := r.param "description"
  let address := r.param "address"
  if description.isNone && address.isNone then
    return refuse 400 .invalidArgument "Need description or address"
  withStore id do return tellStore 200 (← ask (.updateStore id description address))

/-- The answers about stores. -/
def storeEndpoint (r : Request) (id : String) : Method → Step Answer
  | .get => withStore id do return tellStore 200 (← ask (.showStore id))
  | .put => putStore r id
  | .delete => withStore id do return tellStore 204 (← ask (.deleteStore id))
  | .post => return noStore

/-- The answers about the list of stores. -/
def storesEndpoint (r : Request) : Method → Step Answer
  | .get => do return ⟨200, some (.stores ((← theShop).stores.values.map .ofStore))⟩
  | .post => postStore r
  | .put | .delete => return refuse 400 .invalidArgument "storeId path parameter required"

/-- The answer that tells of an account. -/
def tellAccount (status : Nat) (a : Account) : Answer :=
  ⟨status, some (.account (.ofAccount a))⟩

/-- Registers an account. -/
def postAccount (r : Request) : Step Answer := do
  let m ← theAccounts
  match r.param "email", r.param "password", r.param "name" with
  | some email, some password, some name =>
    match m.register email password name with
    | .ok (some a, m) => do
      keepAccounts m
      return tellAccount 201 a
    | .ok (none, _) => return refuse 409 .duplicateEntity "User Already Exists"
    | .error e => return answerFault e
  | _, _, _ => return refuse 400 .invalidArgument "email, password, and name required"

/-- Changes an account. -/
def putAccount (r : Request) (email : String) : Step Answer := do
  let m ← theAccounts
  let password := r.param "password"
  let name := r.param "name"
  if password.isNone && name.isNone then
    return refuse 400 .invalidArgument "Need password or name"
  match m.change email password name with
  | (some a, m) => do
    keepAccounts m
    return tellAccount 200 a
  | (none, _) => return noAccount

/-- The answers about accounts. -/
def accountEndpoint (r : Request) (email : String) : Method → Step Answer
  | .get => do
    match (← theAccounts).get? email with
    | some a => return tellAccount 200 a
    | none => return noAccount
  | .put => putAccount r email
  | .delete => do
    match (← theAccounts).remove email with
    | (true, m) => do
      keepAccounts m
      return ⟨200, some (.deleted email)⟩
    | (false, _) => return noAccount
  | .post => return noAccount

/-- The answers about the list of accounts. -/
def accountsEndpoint (r : Request) : Method → Step Answer
  | .get => do return ⟨200, some (.accounts ((← theAccounts).values.map .ofAccount))⟩
  | .post => postAccount r
  | .put | .delete => return refuse 400 .invalidArgument "email path parameter required"

/-- The answer of an endpoint. -/
def serve (r : Request) (e : Endpoint) : Step Answer :=
  match e.resource with
  | .health => return ⟨200, some (.health "healthy" "smart-store")⟩
  | .stores => storesEndpoint r e.method
  | .store id => storeEndpoint r id e.method
  | .accounts => accountsEndpoint r e.method
  | .account email => accountEndpoint r email e.method

/-- An answer as it is sent: one to a request for the head has no body. -/
def sent (r : Request) (a : Answer) : Answer :=
  if r.method = "HEAD" then { a with body := none } else a

/-- The answer to a request, and the desk afterwards. -/
def Framework.answer (f : Framework) (r : Request) : Step Answer := do
  let r := { r with method := Text.upper r.method }
  match f.route r with
  | .ok e => return sent r (← serve r e)
  | .error a => return sent r a

/-- The answer that a client within the process gets. -/
def answer : Request → Step Answer := Framework.client.answer

end Rest

end Shopfloor
