import Shopfloor.Device
import Shopfloor.Layout
import Shopfloor.Shopper
import Shopfloor.Stock
/-!
# Stores

A store owns its aisles, its stock and its devices. It also lists the
customers who are in it and the baskets that are carried through it, but it
does not own them: they are registered with the shop.

A listing is of one particular registration. When a registration is withdrawn
while a store still lists it, the listing lapses. It stays on the list, keeps
its id from being listed anew, and is not taken off by whoever registers under
the id later.

## Main definitions

* `Listing`: Whether a listed registration still stands.
* `Store`: A store and all that is in it.
* `Store.addAisle`, `Store.getAisle`, `Store.getShelf`: The layout.
* `Store.addInventory`, `Store.addDevice`: What the store owns besides.
* `Store.describe`: A store in words.
-/

namespace Shopfloor

/-- Whether a listed customer or basket is the one that is registered under the id. -/
inductive Listing
  | current
  | lapsed
deriving DecidableEq, Repr

/-- A store and all that is in it. -/
structure Store where
  id : String
  address : String
  description : String
  aisles : Keyed Aisle
  inventory : Keyed Inventory
  customers : Keyed Listing
  baskets : Keyed Listing
  devices : Keyed Device
deriving DecidableEq, Repr

namespace Store

/-- A store with nothing in it. -/
def bare (id address description : String) : Store :=
  ⟨id, address, description, .empty, .empty, .empty, .empty, .empty⟩

/-- A second aisle under one number. -/
def aislePresent (store aisle : String) : Fault :=
  .failure "Add Aisle" (.present .aisle s!"{store}:{aisle}")

/-- No aisle under a number. -/
def aisleAbsent (store : String) (aisle : Option String) : Fault :=
  .failure "Get Aisle" (.absent .aisle (s!"{store}:" ++ shown aisle))

/-- A second inventory under one id. -/
def inventoryPresent (id : String) : Fault := .failure "Add Inventory" (.present .inventory id)

/-- A second device under one id. -/
def devicePresent (id : String) : Fault := .failure "Add Device" (.present .device id)

/-- Opens an aisle, unless its number is taken. -/
def addAisle (s : Store) (a : Aisle) : Except Fault Store :=
  if s.aisles.contains a.number then .error (aislePresent s.id a.number)
  else .ok { s with aisles := s.aisles.insert a.number a }

/-- The aisle with a number. -/
def getAisle (s : Store) (number : Option String) : Except Fault Aisle :=
  match s.aisles.find? number with
  | some a => .ok a
  | none => .error (aisleAbsent s.id number)

/-- The shelf with an id, in the aisle with a number. -/
def getShelf (s : Store) (number id : Option String) : Except Fault Shelf := do
  (← s.getAisle number).getShelf id

/-- Takes up an inventory, unless its id is taken. -/
def addInventory (s : Store) (i : Inventory) : Except Fault Store :=
  if s.inventory.contains i.id then .error (inventoryPresent i.id)
  else .ok { s with inventory := s.inventory.insert i.id i }

/-- Installs a device, unless its id is taken. -/
def addDevice (s : Store) (d : Device) : Except Fault Store :=
  if s.devices.contains d.id then .error (devicePresent d.id)
  else .ok { s with devices := s.devices.insert d.id d }

/-- A customer of this id comes in; one who is listed stays listed. -/
def admitCustomer (s : Store) (id : String) : Store :=
  if s.customers.contains id then s else { s with customers := s.customers.insert id .current }

/-- The registered customer of this id leaves. -/
def dismissCustomer (s : Store) (id : String) : Store :=
  if s.customers.get? id = some .current then { s with customers := s.customers.erase id } else s

/-- A basket of this id comes in; one that is listed stays listed. -/
def admitBasket (s : Store) (id : String) : Store :=
  if s.baskets.contains id then s else { s with baskets := s.baskets.insert id .current }

/-- The registered basket of this id leaves. -/
def dismissBasket (s : Store) (id : String) : Store :=
  if s.baskets.get? id = some .current then { s with baskets := s.baskets.erase id } else s

/-- The words for a store, given those for its fields and how much of each thing is in it. -/
def phrase (id address description : String)
    (aisles inventory customers baskets devices : Nat) : String :=
  s!"Store {id} '{description}' at {address}: aisles={aisles} inventory={inventory} "
    ++ s!"customers={customers} baskets={baskets} devices={devices}"

/-- A store in words. -/
def describe (s : Store) : String :=
  phrase s.id s.address s.description s.aisles.size s.inventory.size s.customers.size
    s.baskets.size s.devices.size

end Store

end Shopfloor
