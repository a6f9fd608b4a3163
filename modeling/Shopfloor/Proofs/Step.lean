import Shopfloor.Shop.Operation
/-!
# Steps of the Shop

What every operation does when it succeeds.

`Step` has one constructor for each operation that changes something, and one
for all queries, which change nothing. A constructor names the arguments the operation must
have been given, what it found in the shop, every check that it passed, and
the shop that it leaves. Whatever is proved of all runs of the shop is proved
by cases on `Step`, so this is the only place that has to change with an
operation, apart from the proof that the operation does what is said here.

Three changes have a name of their own because they write several records:
`afterMove` for a customer who moves, `afterAssign` for a basket that is assigned,
and `emptied` for a basket that is emptied. Emptying goes line by line when it
is carried out. Here it is one change, `recount`, that gives every inventory its
new count at once; that both come to the same is proved where emptying is
carried out.

## Main definitions

* `Shop.query`: What a query finds.
* `Shop.recount`: The shop with new counts of stock.
* `Shop.restocked`: Units of every product put back from a place.
* `Shop.afterMove`, `Shop.afterAssign`, `Shop.emptied`: Changes that write several records.
* `Shop.Step`: What an operation does when it succeeds.
-/

namespace Shopfloor

namespace Shop

/-- What a query finds; an operation that changes the shop is none. -/
def query (shop : Shop) : Operation → Option Reply
  | .showStore id => (shop.stores.find? id).map .store
  | .showAisle store number =>
    ((shop.stores.find? store).bind fun s => s.aisles.find? number).map .aisle
  | .showShelf store number id =>
    (((shop.stores.find? store).bind fun s => s.aisles.find? number).bind fun a =>
      a.shelves.find? id).map .shelf
  | .showProduct id => (shop.products.find? id).map .product
  | .showInventory id => (shop.inventory? id).map .inventory
  | .showCustomer id => (shop.customers.find? id).map .customer
  | .showBasket id => (shop.baskets.find? id).map .basket
  | .getCustomerBasket customer =>
    ((shop.customers.find? customer).bind fun c => shop.baskets.find? c.basket).map .basket
  | .showDevice id => (shop.device? id).map .device
  | _ => none

/-- The shop in which every inventory has a new count. -/
def recount (shop : Shop) (n : Inventory → Int) : Shop :=
  { shop with
    stores := shop.stores.mapValues fun _ s =>
      { s with inventory := s.inventory.mapValues fun _ i => { i with count := n i } } }

/-- The count of an inventory after units of its product were put back from a place. -/
def refilled (shop : Shop) (spot : Option AisleSpot) (units : String → Int) (i : Inventory) : Int :=
  if choose (shop.stockOf i.product) spot = some i then i.count + min (units i.product) i.room
  else i.count

/-- The shop after units of every product were put back from a place, as far as there is room. -/
def restocked (shop : Shop) (spot : Option AisleSpot) (units : String → Int) : Shop :=
  shop.recount (shop.refilled spot units)

/-- The shop after a customer has moved to an aisle, with the basket they hold. -/
def afterMove (shop : Shop) (c : Customer) (spot : AisleSpot) : Shop :=
  let moved := c.moveTo spot
  let there : Shop :=
    { shop with
      stores := relist shop.stores c spot.store
      customers := shop.customers.adjust c.id fun _ => moved }
  match there.heldBasket moved with
  | some b => there.carryBasket b spot.store
  | none => there

/-- The shop after a basket was assigned to a customer. -/
def afterAssign (shop : Shop) (c : Customer) (b : Basket) : Shop :=
  let taken : Shop :=
    { shop with
      customers := shop.customers.adjust c.id fun c => { c with basket := some b.id }
      baskets := shop.baskets.adjust b.id fun b => { b with customer := some c.id } }
  match c.spot with
  | some spot => taken.carryBasket b spot.store
  | none => taken

/-- The shop after a basket was emptied. -/
def emptied (shop : Shop) (b : Basket) : Shop :=
  (shop.restocked (shop.standing b) b.quantity).putBasket { b with lines := .empty }

/-- What an operation does to a shop when it succeeds, and what it answers. -/
inductive Step (shop : Shop) : Operation → Reply → Shop → Prop
  | query {op : Operation} {r : Reply} (h : shop.query op = some r) : Step shop op r shop
  | openStore {k name address : String} (hk : shop.stores.get? k = none) :
    Step shop (.provisionStore (some k) (some name) (some address))
      (.store (.bare k address name)) (shop.putStore (.bare k address name))
  | updateStore {k : String} {s s' : Store} (description address : Option String)
    (hs : shop.stores.get? k = some s)
    (hs' : s' = { s with
      description := description.getD s.description
      address := address.getD s.address }) :
    Step shop (.updateStore (some k) description address) (.store s') (shop.putStore s')
  | closeStore {k : String} {s : Store} (hs : shop.stores.get? k = some s) :
    Step shop (.deleteStore (some k)) .nothing (shop.without s)
  | openAisle {k n name : String} {s : Store} {a : Aisle} {place : Option AisleLocation}
    (description location : Option String) (hs : shop.stores.get? k = some s)
    (hn : s.aisles.get? n = none) (hp : location.map Choice.read? = place.map some)
    (ha : a = ⟨n, name, description.getD "", place, .empty⟩) :
    Step shop (.provisionAisle (some k) (some n) (some name) description location) (.aisle a)
      (shop.putStore { s with aisles := s.aisles.insert n a })
  | putUpShelf {k n i name : String} {s : Store} {a : Aisle} {b : Shelf} {height : ShelfLevel}
    {warmth : Temperature} (level description temperature : Option String)
    (hs : shop.stores.get? k = some s) (ha : s.aisles.get? n = some a)
    (hi : a.shelves.get? i = none) (hh : Choice.read? (shown level) = some height)
    (hw : Choice.read? (shown temperature) = some warmth)
    (hb : b = ⟨i, name, height, description.getD "", warmth⟩) :
    Step shop (.provisionShelf (some k) (some n) (some i) (some name) level description temperature)
      (.shelf b)
      (shop.putStore { s with
        aisles := s.aisles.insert a.number { a with shelves := a.shelves.insert i b } })
  | addProduct {i name : String} {x : Binary64} {warmth : Temperature} {p : Product}
    (description size category temperature : Option String) (hi : shop.products.get? i = none)
    (hx : x.isFinite = true) (h0 : x.belowZero = false)
    (hw : Choice.read? (shown temperature) = some warmth)
    (hp : p = ⟨i, name, description.getD "", size.getD "", category.getD "", x, warmth⟩) :
    Step shop
      (.provisionProduct (some i) (some name) description size category (some x) temperature)
      (.product p) { shop with products := shop.products.insert i p }
  | addInventory {i k n b p : String} {s : Store} {a : Aisle} {board : Shelf} {most units : Int}
    {item : Product} {sort : InventoryType} {j : Inventory} (type : Option String)
    (hs : shop.stores.get? k = some s) (ha : s.aisles.get? n = some a)
    (hb : a.shelves.get? b = some board) (h0 : 0 ≤ units) (hm : units ≤ most)
    (hp : shop.products.get? p = some item)
    (ht : type.elim (some .standard) Choice.read? = some sort)
    (hi : shop.inventory? (some i) = none) (hsi : s.inventory.get? i = none)
    (hj : j = ⟨i, ⟨s.id, a.number, board.id⟩, most, units, item.id, sort⟩) :
    Step shop
      (.provisionInventory (some i) (some k) (some n) (some b) (some most) (some units) (some p)
        type)
      (.inventory j) (shop.putStore { s with inventory := s.inventory.insert i j })
  | adjustInventory {k : String} {i i' : Inventory} {delta : Int}
    (hi : shop.inventory? (some k) = some i) (hlow : 0 ≤ i.count + delta)
    (hhigh : i.count + delta ≤ i.capacity) (hi' : i' = { i with count := i.count + delta }) :
    Step shop (.updateInventory (some k) delta) (.inventory i') (shop.putInventory i')
  | addCustomer {i first last email account : String} {sort : CustomerType} {c : Customer}
    (type : Option String) (hi : shop.customers.get? i = none)
    (ht : Choice.read? (shown type) = some sort)
    (hc : c = ⟨i, first, last, sort, email, account, none, none, false, none⟩) :
    Step shop
      (.provisionCustomer (some i) (some first) (some last) type (some email) (some account))
      (.customer c) { shop with customers := shop.customers.insert i c }
  | moveCustomer {i k n : String} {c : Customer} {s : Store} {a : Aisle}
    (hc : shop.customers.get? i = some c) (hs : shop.stores.get? k = some s)
    (ha : s.aisles.get? n = some a) :
    Step shop (.updateCustomer (some i) (some k) (some n)) (.customer (c.moveTo ⟨s.id, a.number⟩))
      (shop.afterMove c ⟨s.id, a.number⟩)
  | addBasket {i : String} {b : Basket} (hi : shop.baskets.get? i = none)
    (hb : b = ⟨i, none, none, .empty⟩) :
    Step shop (.provisionBasket (some i)) (.basket b)
      { shop with baskets := shop.baskets.insert i b }
  | assignBasket {i k : String} {c : Customer} {b b' : Basket}
    (hc : shop.customers.get? i = some c) (hb : shop.baskets.get? k = some b)
    (hbc : ∀ owner, b.customer = some owner → owner = c.id)
    (hcb : ∀ held, c.basket = some held → held = b.id)
    (hb' : (shop.afterAssign c b).baskets.get? k = some b') :
    Step shop (.assignCustomerBasket (some i) (some k)) (.basket b') (shop.afterAssign c b)
  | takeIntoBasket {k p owner : String} {b b' : Basket} {q : Int} {i i' : Inventory}
    {spot : AisleSpot} (hb : shop.baskets.get? k = some b) (hq : 0 < q)
    (ho : b.customer = some owner) (hspot : shop.standing b = some spot)
    (hi : choose (shop.stockOf p) (some spot) = some i) (hin : i.spot.inAisle = spot)
    (hle : q ≤ i.count) (hhigh : i.count - q ≤ i.capacity)
    (hi' : i' = { i with count := i.count - q })
    (hb' : b' = { b with lines := b.lines.insert p (b.quantity p + q) }) :
    Step shop (.addBasketProduct (some k) (some p) (some q)) (.basket b')
      ((shop.putInventory i').putBasket b')
  | putBackFromBasket {k p owner : String} {b b' : Basket} {q held : Int} {i i' : Inventory}
    {spot : AisleSpot} (hb : shop.baskets.get? k = some b)
    (hheld : b.lines.get? p = some held) (hq : 0 < q) (hle : q ≤ held)
    (ho : b.customer = some owner) (hspot : shop.standing b = some spot)
    (hi : choose (shop.stockOf p) (some spot) = some i) (hin : i.spot.inAisle = spot)
    (hlow : 0 ≤ i.count + q) (hhigh : i.count + q ≤ i.capacity)
    (hi' : i' = { i with count := i.count + q })
    (hb' : b' = { b with
      lines := if held = q then b.lines.erase p else b.lines.insert p (held - q) }) :
    Step shop (.removeBasketProduct (some k) (some p) (some q)) (.basket b')
      ((shop.putInventory i').putBasket b')
  | emptyBasket {k : String} {b : Basket} (hb : shop.baskets.get? k = some b) :
    Step shop (.clearBasket (some k)) (.basket { b with lines := .empty }) (shop.emptied b)
  | installDevice {i name type k n : String} {kind : DeviceKind} {s : Store} {a : Aisle}
    {d : Device} (hk : classifyDevice type = .ok kind) (hs : shop.stores.get? k = some s)
    (ha : s.aisles.get? n = some a) (hi : shop.device? (some i) = none)
    (hsi : s.devices.get? i = none)
    (hd : d = ⟨i, name, Choice.fold type, kind, ⟨s.id, a.number⟩⟩) :
    Step shop (.provisionDevice (some i) (some name) type (some k) (some n)) (.device d)
      (shop.putStore { s with devices := s.devices.insert i d })
  | raiseEvent {k : String} {d : Device} {e : DeviceEvent} (event : Option String)
    (hd : shop.device? (some k) = some d)
    (he : e = d.message DeviceEvent.eventKind event) :
    Step shop (.raiseEvent (some k) event) (.event e) { shop with events := shop.events ++ [e] }
  | issueCommand {k : String} {d : Device} {e : DeviceEvent} (command : Option String)
    (hd : shop.device? (some k) = some d) (ht : d.takesCommands = true)
    (he : e = d.message DeviceEvent.commandKind command) :
    Step shop (.issueCommand (some k) command) (.event e)
      { shop with events := shop.events ++ [e] }

end Shop

end Shopfloor
