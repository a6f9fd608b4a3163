import Shopfloor.Store
/-!
# The Shop

Everything that is registered at one moment: stores with what is in them, the
catalogue, customers, baskets, and the log of device messages.

Stock and devices are found by searching the stores, so what a store owns
disappears with it. The stock of a product is listed in the order of inventory
ids, whatever the order in which stores were opened.

An act is a step that may change the shop and may fail. Failing does not undo
anything by itself; that a failing act leaves the shop as it was is a fact
about each act, which checks everything before it changes anything.

## Main definitions

* `Shop`: The state of the shop.
* `Shop.inventory?`, `Shop.device?`: Searches through the stores.
* `Shop.stockOf`: The inventories of a product.
* `Act`: A step that may change the shop and may fail.
-/

namespace Shopfloor

/-- Everything that is registered at one moment. -/
structure Shop where
  stores : Keyed Store
  products : Keyed Product
  customers : Keyed Customer
  baskets : Keyed Basket
  /-- The messages of devices, in the order in which they were published. -/
  events : List DeviceEvent
deriving DecidableEq, Repr

namespace Shop

/-- A shop in which nothing is registered. -/
def empty : Shop := ⟨.empty, .empty, .empty, .empty, []⟩

instance : Inhabited Shop := ⟨empty⟩

/-- The inventory with an id, in the first store that has one. -/
def inventory? (shop : Shop) (id : Option String) : Option Inventory :=
  shop.stores.values.findSome? fun s => s.inventory.find? id

/-- The device with an id, in the first store that has one. -/
def device? (shop : Shop) (id : Option String) : Option Device :=
  shop.stores.values.findSome? fun s => s.devices.find? id

/-- The inventories of a product in all stores, in the order of their ids. -/
def stockOf (shop : Shop) (product : String) : List Inventory :=
  ((shop.stores.values.flatMap fun s => s.inventory.values).filter fun i => i.product == product)
    |>.mergeSort fun a b => !decide (b.id < a.id)

/-- Writes an inventory back where it is kept. -/
def putInventory (shop : Shop) (i : Inventory) : Shop :=
  { shop with
    stores := shop.stores.adjust i.spot.store fun s =>
      { s with inventory := s.inventory.adjust i.id fun _ => i } }

/-- Writes a basket back under its id. -/
def putBasket (shop : Shop) (b : Basket) : Shop :=
  { shop with baskets := shop.baskets.adjust b.id fun _ => b }

/-- Writes a store under its id. -/
def putStore (shop : Shop) (s : Store) : Shop := { shop with stores := shop.stores.insert s.id s }

end Shop

/-- A step that may change the shop and may fail. -/
abbrev Act := ExceptT Fault (StateM Shop)

namespace Act

/-- A step that only checks. -/
def ofExcept {α : Type} (x : Except Fault α) : Act α := ExceptT.mk (pure x)

/-- Fails with a cause. -/
def fail {α : Type} (action : String) (cause : Cause) : Act α := throw (cause.fault action)

/-- What was looked up under an id, which has to be there. -/
def found {α : Type} (action : String) (noun : Noun) (id : Option String) (x : Option α) : Act α :=
  match x with
  | some a => pure a
  | none => fail action (.absent noun (shown id))

/-- Does a step in a shop: how it ended, and the shop afterwards. -/
def runIn {α : Type} (act : Act α) (shop : Shop) : Except Fault α × Shop := act.run shop

end Act

namespace Shop

/-- The store with an id. -/
def theStore (action : String) (id : Option String) : Act Store := do
  Act.found action .store id ((← get).stores.find? id)

/-- The product with an id. -/
def theProduct (action : String) (id : Option String) : Act Product := do
  Act.found action .product id ((← get).products.find? id)

/-- The inventory with an id. -/
def theInventory (action : String) (id : Option String) : Act Inventory := do
  Act.found action .inventory id ((← get).inventory? id)

/-- The customer with an id. -/
def theCustomer (action : String) (id : Option String) : Act Customer := do
  Act.found action .customer id ((← get).customers.find? id)

/-- The basket with an id. -/
def theBasket (action : String) (id : Option String) : Act Basket := do
  Act.found action .basket id ((← get).baskets.find? id)

/-- The device with an id. -/
def theDevice (action : String) (id : Option String) : Act Device := do
  Act.found action .device id ((← get).device? id)

end Shop

end Shopfloor
