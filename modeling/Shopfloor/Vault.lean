import Shopfloor.Account
import Shopfloor.Store
/-!
# The Vault

Where records are kept between requests: named values, of whatever sort, in
the order in which their names arrived.

Two of the names are special. Under one lies the map of stores and under the
other the map of accounts. Whoever asks for one of these maps finds it: if the
name is not there, an empty map is put under it first. Only when the keeping
of accounts begins, and the name is not there, the map starts with the
standard accounts instead; emptying the vault later does not bring them back.

Nothing keeps a map of other things from being put under such a name. The
records kept afterwards are then kept among those things, which are found by
their keys as if they were records. What is no map counts as an empty one.

## Main definitions

* `Vault.Entry`, `Vault.Content`, `Vault`: Named values.
* `Vault.obtain`: The value under a name, put there if the name is missing.
* `Vault.entries`: The map under a name.
* `Vault.find`, `Vault.keep`, `Vault.discard`: One entry of such a map.
* `Vault.openStores`, `Vault.openAccounts`: Begin the keeping of records.
-/

namespace Shopfloor

/-- What a map in the vault holds, for values of any sort. -/
inductive Vault.Entry (α : Type)
  | value (a : α)
  | store (s : Store)
  | account (a : Account)
deriving DecidableEq, Repr

/-- What lies under a name, for values of any sort. -/
inductive Vault.Content (α : Type)
  | value (a : α)
  | map (m : Keyed (Vault.Entry α))
deriving DecidableEq, Repr

/-- Named values. -/
abbrev Vault (α : Type) := Keyed (Vault.Content α)

namespace Vault

variable {α : Type}

/-- The name of the map of stores. -/
def storesName : String := "stores"

/-- The name of the map of accounts. -/
def accountsName : String := "users"

/-- The value under a name, and the vault afterwards: if the name is missing, a first value is put
    under it. -/
def obtain (v : Vault α) (name : String) (first : Content α) : Content α × Vault α :=
  match v.get? name with
  | some c => (c, v)
  | none => (first, v.insert name first)

/-- The entries of a map; a value of any other sort has none. -/
def Content.entries : Content α → Keyed (Entry α)
  | .map m => m
  | .value _ => .empty

/-- The map under a name, and the vault afterwards. -/
def entries (v : Vault α) (name : String) : Keyed (Entry α) × Vault α :=
  let (c, v) := v.obtain name (.map .empty)
  (c.entries, v)

/-- What is kept under a key of a map, and the vault afterwards. -/
def find (v : Vault α) (name : String) (key : Option String) : Option (Entry α) × Vault α :=
  let (m, v) := v.entries name
  (m.find? key, v)

/-- Keeps something under a key of a map. -/
def keep (v : Vault α) (name key : String) (e : Entry α) : Vault α :=
  let (m, v) := v.entries name
  v.insert name (.map (m.insert key e))

/-- Removes a key from a map; nothing is ever kept under an absent key. -/
def discard (v : Vault α) (name : String) (key : Option String) : Vault α :=
  let (m, v) := v.entries name
  v.insert name (.map (key.elim m m.erase))

/-- Keeps a store. -/
def keepStore (v : Vault α) (s : Store) : Vault α := v.keep storesName s.id (.store s)

/-- Keeps an account. -/
def keepAccount (v : Vault α) (a : Account) : Vault α := v.keep accountsName a.email (.account a)

/-- What is kept under an address, and the vault afterwards. Nobody is looked for without one. -/
def findAccount (v : Vault α) (email : Option String) : Option (Entry α) × Vault α :=
  if email.isNone then (none, v) else v.find accountsName email

/-- Begins the keeping of stores. -/
def openStores (v : Vault α) : Vault α := (v.entries storesName).2

/-- Begins the keeping of accounts. -/
def openAccounts (v : Vault α) : Vault α :=
  if v.contains accountsName then v
  else v.insert accountsName (.map (Accounts.standard.mapValues fun _ a => .account a))

end Vault

end Shopfloor
