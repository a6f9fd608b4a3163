import Shopfloor.Premises
import Shopfloor.Shop.Operation
import Shopfloor.Vault
/-!
# The Archive

The vault in which the records of a shop and of its accounts lie.

`Premises` puts a shop and its accounts side by side. In the archive they share
a vault: there are five maps in it, under five names, and each is a drawer for
one sort of record. A drawer that is not there counts as empty. Whoever deals
with the shop opens four of the drawers, whoever deals with accounts the fifth.
Only the log of the devices is kept elsewhere.

When the premises are opened, the keeping of stores begins and after it that of
accounts, which puts in the standard ones. A reset concerns the shop, but it
empties the whole vault. Then it begins the keeping of stores once more, and
that of accounts is not begun again.

## Main definitions

* `Keyed.pick`: The values of a map that are of one sort.
* `Drawer`: A name of the vault, and the sort of record that lies under it.
* `Archive`: The vault of a shop and its accounts, and the log.
* `Archive.premises`: The shop and the accounts that are kept.
* `Archive.operate`, `Archive.reset`: An operation of the shop, and a reset.
* `Dealing`, `Archive.after`: What is done to an archive.
* `Dealing.onShop`, `Dealing.onAccounts`: What it does to a shop, and to accounts.
-/

namespace Shopfloor

/-- The values of a map that are of one sort, in their order. -/
def Keyed.pick {α β : Type} (f : α → Option β) (m : Keyed α) : Keyed β where
  entries := m.entries.filterMap fun e => (f e.2).map (e.1, ·)
  nodup := by
    refine m.nodup.sublist ?_
    induction m.entries with
    | nil => exact .slnil
    | cons e l ih =>
        cases hf : f e.2 with
        | none =>
            rw [List.filterMap_cons_none (by rw [hf]; rfl)]
            exact ih.cons e.1
        | some b =>
            rw [List.filterMap_cons_some (by rw [hf]; rfl)]
            exact ih.cons_cons e.1

/-- A record that is registered outside of the stores. -/
inductive Registration
  | product (p : Product)
  | customer (c : Customer)
  | basket (b : Basket)
deriving DecidableEq, Repr

/-- A name of the vault, and the sort of record that lies under it: what a record is there, and what
    is read as such a record. -/
structure Drawer (α : Type) where
  name : String
  entry : α → Vault.Entry Registration
  record? : Vault.Entry Registration → Option α
  record?_entry : ∀ a, record? (entry a) = some a

namespace Drawer

/-- The drawer of the stores. -/
def stores : Drawer Store where
  name := Vault.storesName
  entry := .store
  record?
    | .store s => some s
    | _ => none
  record?_entry _ := rfl

/-- The drawer of the accounts. -/
def accounts : Drawer Account where
  name := Vault.accountsName
  entry := .account
  record?
    | .account a => some a
    | _ => none
  record?_entry _ := rfl

/-- The drawer of the products. -/
def products : Drawer Product where
  name := "products"
  entry p := .value (.product p)
  record?
    | .value (.product p) => some p
    | _ => none
  record?_entry _ := rfl

/-- The drawer of the customers. -/
def customers : Drawer Customer where
  name := "customers"
  entry c := .value (.customer c)
  record?
    | .value (.customer c) => some c
    | _ => none
  record?_entry _ := rfl

/-- The drawer of the baskets. -/
def baskets : Drawer Basket where
  name := "baskets"
  entry b := .value (.basket b)
  record?
    | .value (.basket b) => some b
    | _ => none
  record?_entry _ := rfl

variable {α : Type}

/-- What lies in a drawer. -/
def read (d : Drawer α) (v : Vault Registration) : Keyed α := (v.entries d.name).1.pick d.record?

/-- The vault with something else in a drawer. -/
def write (d : Drawer α) (m : Keyed α) (v : Vault Registration) : Vault Registration :=
  v.insert d.name (.map (m.mapValues fun _ a => d.entry a))

end Drawer

/-- The vault in which the records of a shop and of its accounts lie, and the log. -/
structure Archive where
  vault : Vault Registration
  log : List DeviceEvent
deriving DecidableEq, Repr

namespace Archive

/-- The shop that is kept. -/
def shop (a : Archive) : Shop where
  stores := Drawer.stores.read a.vault
  products := Drawer.products.read a.vault
  customers := Drawer.customers.read a.vault
  baskets := Drawer.baskets.read a.vault
  events := a.log

/-- The accounts that are kept. -/
def accounts (a : Archive) : Accounts := Drawer.accounts.read a.vault

/-- The shop and the accounts that are kept. -/
def premises (a : Archive) : Premises := ⟨a.shop, a.accounts⟩

/-- The archive with another shop. -/
def keepShop (a : Archive) (shop : Shop) : Archive where
  vault := Drawer.baskets.write shop.baskets <| Drawer.customers.write shop.customers <|
    Drawer.products.write shop.products <| Drawer.stores.write shop.stores a.vault
  log := shop.events

/-- The archive with other accounts. -/
def keepAccounts (a : Archive) (m : Accounts) : Archive :=
  { a with vault := Drawer.accounts.write m a.vault }

/-- An archive in which only the keeping of stores has begun. -/
def fresh : Archive := ⟨Vault.openStores .empty, []⟩

/-- The archive of premises that are opened. -/
def opened : Archive := { fresh with vault := fresh.vault.openAccounts }

/-- Empties the vault, and begins the keeping of stores once more. -/
def reset (a : Archive) : Archive := { a with vault := Vault.openStores .empty }

/-- How an operation ends, and the archive afterwards. -/
def operate (token : Option String) (op : Operation) (a : Archive) :
    Except Fault Reply × Archive :=
  let (answer, shop) := Shop.run token op a.shop
  (answer, a.keepShop shop)

end Archive

/-- What is done to an archive, from the side of the shop or from that of the accounts. -/
inductive Dealing
  | operate (token : Option String) (op : Operation)
  | register (email password name : Option String)
  | change (email password name : Option String)
  | remove (email : Option String)
  | reset
deriving DecidableEq, Repr

namespace Dealing

/-- What a dealing does to the shop. -/
def onShop (shop : Shop) : Dealing → Shop
  | .operate token op => (Shop.run token op shop).2
  | .reset => shop.reset
  | _ => shop

/-- What a dealing does to the accounts. An account that is refused changes nothing. -/
def onAccounts (m : Accounts) : Dealing → Accounts
  | .register email password name => ((m.register email password name).toOption.map (·.2)).getD m
  | .change email password name => (m.change email password name).2
  | .remove email => (m.remove email).2
  | .reset => .empty
  | .operate .. => m

end Dealing

namespace Archive

/-- The archive after a dealing. -/
def after (a : Archive) : Dealing → Archive
  | .operate token op => (a.operate token op).2
  | .reset => a.reset
  | d => a.keepAccounts (d.onAccounts a.accounts)

/-- The archive after one dealing and the next. -/
def afterAll (a : Archive) (ds : List Dealing) : Archive := ds.foldl after a

/-- How operations end that are asked for one after the other. -/
def answers : Archive → List (Option String × Operation) → List (Except Fault Reply)
  | _, [] => []
  | a, (token, op) :: calls => (a.operate token op).1 :: answers (a.operate token op).2 calls

end Archive

end Shopfloor
