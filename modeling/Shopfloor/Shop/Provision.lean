import Shopfloor.Shop
/-!
# Provisioning

Registering new things. Each act first looks up what the new thing is to stand
in, then checks its arguments, then makes the record, and only then registers
it.

A record needs a text in each of its fields. Fields for which no text was
given are named in the order in which the record declares them. Descriptions
and the like may be left out and are then empty.

## Main definitions

* `Shop.openStore`, `Shop.openAisle`, `Shop.putUpShelf`: The layout.
* `Shop.addProduct`, `Shop.addInventory`: The catalogue and the stock.
* `Shop.addCustomer`, `Shop.addBasket`: Shoppers.
* `Shop.installDevice`: Devices.
-/

namespace Shopfloor

namespace Shop

/-- Opens a store. -/
def openStore (action : String) (id name address : Option String) : Act Store := do
  if ((← get).stores.find? id).isSome then Act.fail action (.present .store (shown id))
  match id, address, name with
  | some i, some a, some n =>
    let store := Store.bare i a n
    modify (·.putStore store)
    return store
  | _, _, _ =>
    throw (Fault.withoutText [("id", id), ("address", address), ("description", name)])

/-- Opens an aisle in a store. -/
def openAisle (action : String) (store number name description location : Option String) :
    Act Aisle := do
  let place ← match location with
    | some l => some <$> Act.ofExcept (Choice.require (α := AisleLocation) action (some l))
    | none => pure none
  let s ← theStore action store
  match number, name with
  | some n, some title =>
    let aisle : Aisle := ⟨n, title, description.getD "", place, .empty⟩
    let s ← Act.ofExcept (s.addAisle aisle)
    modify (·.putStore s)
    return aisle
  | _, _ => throw (Fault.withoutText [("number", number), ("name", name)])

/-- Puts up a shelf in an aisle. -/
def putUpShelf (action : String)
    (store number id name level description temperature : Option String) : Act Shelf := do
  let height ← Act.ofExcept (Choice.require (α := ShelfLevel) action level)
  let warmth ← Act.ofExcept (Choice.require (α := Temperature) action temperature)
  let s ← theStore action store
  let aisle ← Act.ofExcept (s.getAisle number)
  match id, name with
  | some i, some title =>
    let shelf : Shelf := ⟨i, title, height, description.getD "", warmth⟩
    let aisle ← Act.ofExcept (aisle.addShelf shelf)
    modify (·.putStore { s with aisles := s.aisles.insert aisle.number aisle })
    return shelf
  | _, _ => throw (Fault.withoutText [("id", id), ("name", name)])

/-- A price that can be charged: a finite number that is not below zero. -/
def chargeable (action : String) (price : Option Binary64) : Act Binary64 :=
  match price with
  | some x =>
    if !x.isFinite || x.belowZero then Act.fail action (.invalidPrice price) else pure x
  | none => Act.fail action (.invalidPrice none)

/-- Enters a product into the catalogue. -/
def addProduct (action : String) (id name description size category : Option String)
    (price : Option Binary64) (temperature : Option String) : Act Product := do
  let x ← chargeable action price
  let warmth ← Act.ofExcept (Choice.require (α := Temperature) action temperature)
  if ((← get).products.find? id).isSome then Act.fail action (.present .product (shown id))
  match id, name with
  | some i, some title =>
    let product : Product :=
      ⟨i, title, description.getD "", size.getD "", category.getD "", x, warmth⟩
    modify fun shop => { shop with products := shop.products.insert i product }
    return product
  | _, _ => throw (Fault.withoutText [("id", id), ("name", name)])

/-- A count that stock can begin with. -/
def startingCount (action : String) (count : Option Int) : Act Int :=
  match count with
  | some n => if n < 0 then Act.fail action (.negativeCount count) else pure n
  | none => Act.fail action (.negativeCount none)

/-- A capacity that holds a count. -/
def roomFor (action : String) (capacity : Option Int) (count : Int) : Act Int :=
  match capacity with
  | some n => if n < count then Act.fail action (.smallCapacity capacity count) else pure n
  | none => Act.fail action (.smallCapacity none count)

/-- The type of an inventory; one that is not given is standard. -/
def inventoryType (action : String) (type : Option String) : Act InventoryType :=
  match type with
  | some t => Act.ofExcept (Choice.require action (some t))
  | none => pure .standard

/-- Places stock of a product on a shelf. -/
def addInventory (action : String) (id store number shelf : Option String)
    (capacity count : Option Int) (product type : Option String) : Act Inventory := do
  let s ← theStore action store
  let aisle ← Act.ofExcept (s.getAisle number)
  let board ← Act.ofExcept (aisle.getShelf shelf)
  let units ← startingCount action count
  let most ← roomFor action capacity units
  let item ← match (← get).products.find? product with
    | some p => pure p
    | none => Act.fail action (.unknownProduct product)
  let sort ← inventoryType action type
  -- Ids of inventories are unique over all stores, not in one.
  if ((← get).inventory? id).isSome then Act.fail action (.present .inventory (shown id))
  match id with
  | some i =>
    let inventory : Inventory := ⟨i, ⟨s.id, aisle.number, board.id⟩, most, units, item.id, sort⟩
    let s ← Act.ofExcept (s.addInventory inventory)
    modify (·.putStore s)
    return inventory
  | none => throw (Fault.withoutText [("id", id)])

/-- Registers a customer. -/
def addCustomer (action : String) (id firstName lastName type email account : Option String) :
    Act Customer := do
  let sort ← Act.ofExcept (Choice.require (α := CustomerType) action type)
  if ((← get).customers.find? id).isSome then Act.fail action (.present .customer (shown id))
  match id, firstName, lastName, email, account with
  | some i, some f, some l, some e, some a =>
    let customer : Customer := ⟨i, f, l, sort, e, a, none, none, false, none⟩
    modify fun shop => { shop with customers := shop.customers.insert i customer }
    return customer
  | _, _, _, _, _ =>
    throw (Fault.withoutText [("id", id), ("first_name", firstName), ("last_name", lastName),
      ("email", email), ("account", account)])

/-- Registers a basket. -/
def addBasket (action : String) (id : Option String) : Act Basket := do
  if ((← get).baskets.find? id).isSome then Act.fail action (.present .basket (shown id))
  match id with
  | some i =>
    let basket : Basket := ⟨i, none, none, .empty⟩
    modify fun shop => { shop with baskets := shop.baskets.insert i basket }
    return basket
  | none => throw (Fault.withoutText [("id", id)])

/-- Installs a device in an aisle. -/
def installDevice (action : String) (id name : Option String) (type : String)
    (store number : Option String) : Act Device := do
  let kind ← Act.ofExcept (classifyDevice type)
  let s ← theStore action store
  let aisle ← Act.ofExcept (s.getAisle number)
  if ((← get).device? id).isSome then Act.fail action (.present .device (shown id))
  match id, name with
  | some i, some title =>
    let device : Device := ⟨i, title, Choice.fold type, kind, ⟨s.id, aisle.number⟩⟩
    let s ← Act.ofExcept (s.addDevice device)
    modify (·.putStore s)
    return device
  | _, _ => throw (Fault.withoutText [("id", id), ("name", name)])

end Shop

end Shopfloor
