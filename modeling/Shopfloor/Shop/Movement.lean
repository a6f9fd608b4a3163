import Shopfloor.Shop
/-!
# Movement

Customers who walk, baskets that go with them, and stores that close.

Where a customer is stands in two places, with the customer and on the list of
the store, and a basket's store likewise. The acts here change both sides
together. A basket follows the customer who holds it: it is taken off the list
of the store that it was in and put on the list of the one it is now in.

When a store closes, the customers who are listed in it are nowhere any more,
and no basket is in it. What the store owned goes with it.

## Main definitions

* `Shop.carryBasket`: A basket is now in a store.
* `Shop.moveCustomer`: A customer now stands in an aisle.
* `Shop.assignBasket`: A customer takes a basket.
* `Shop.updateStore`, `Shop.closeStore`: Changing a store, and closing one.
-/

namespace Shopfloor

namespace Shop

/-- A basket is now in a store, or in none if there is no such store. -/
def carryBasket (shop : Shop) (b : Basket) (store : String) : Shop :=
  if b.store = some store then shop
  else
    -- The store that the basket was in may have been discarded meanwhile; then nothing is left.
    let left := match b.store with
      | some previous => shop.stores.adjust previous (·.dismissBasket b.id)
      | none => shop.stores
    if left.contains store then
      { shop with
        stores := left.adjust store (·.admitBasket b.id)
        baskets := shop.baskets.adjust b.id fun b => { b with store := some store } }
    else
      { shop with
        stores := left
        baskets := shop.baskets.adjust b.id fun b => { b with store := none } }

/-- A customer goes from the list of the store they were in to the list of another. -/
def relist (stores : Keyed Store) (c : Customer) (store : String) : Keyed Store :=
  -- A step within one store takes nobody off its list.
  let left := match c.spot with
    | some previous =>
      if previous.store ≠ store then stores.adjust previous.store (·.dismissCustomer c.id)
      else stores
    | none => stores
  left.adjust store (·.admitCustomer c.id)

/-- The basket that a customer holds, if it is registered. -/
def heldBasket (shop : Shop) (c : Customer) : Option Basket := shop.baskets.find? c.basket

/-- A customer now stands in an aisle, and the basket they hold is in the same store. -/
def moveCustomer (action : String) (id store number : Option String) : Act Customer := do
  let c ← theCustomer action id
  let s ← theStore action store
  let aisle ← Act.ofExcept (s.getAisle number)
  -- Customer, store and aisle are known; from here on nothing is refused.
  let moved := c.moveTo ⟨s.id, aisle.number⟩
  modify fun shop =>
    { shop with
      stores := relist shop.stores c s.id
      customers := shop.customers.adjust c.id fun _ => moved }
  -- The basket goes along, unless its registration was withdrawn.
  match (← get).heldBasket moved with
  | some b => modify (·.carryBasket b s.id)
  | none => pure ()
  return moved

/-- The basket that a customer holds. -/
def customerBasket (action : String) (id : Option String) : Act Basket := do
  let c ← theCustomer action id
  match c.basket with
  | none => Act.fail action (.noBasket c.id)
  | some b => theBasket action (some b)

/-- A customer takes a basket. Neither may be bound to another already. -/
def assignBasket (action : String) (customer basket : Option String) : Act Basket := do
  let c ← theCustomer action customer
  let b ← theBasket action basket
  match b.customer with
  | some owner => if owner ≠ c.id then Act.fail action (.basketTaken b.id owner)
  | none => pure ()
  match c.basket with
  | some held => if held ≠ b.id then Act.fail action (.basketHeld c.id held)
  | none => pure ()
  -- Assigning the same basket twice is allowed and binds nothing new.
  modify fun shop =>
    { shop with
      customers := shop.customers.adjust c.id fun c => { c with basket := some b.id }
      baskets := shop.baskets.adjust b.id fun b => { b with customer := some c.id } }
  match c.spot with
  | some spot => modify (·.carryBasket b spot.store)
  | none => pure ()
  theBasket action basket

/-- Changes the description and the address of a store, each if it is given. -/
def updateStore (action : String) (id description address : Option String) : Act Store := do
  let s ← theStore action id
  let s := { s with
    description := description.getD s.description
    address := address.getD s.address }
  modify (·.putStore s)
  return s

/-- The shop without a store: its customers are nowhere and no basket is in it. -/
def without (shop : Shop) (s : Store) : Shop :=
  { shop with
    customers := shop.customers.mapValues fun id c =>
      -- The place alone does not decide: a store discarded and opened again lists nobody at first.
      if s.customers.get? id = some .current ∧ (c.spot.map (·.store)) = some s.id then
        { c with spot := none }
      else c
    baskets := shop.baskets.mapValues fun _ b =>
      if b.store = some s.id then { b with store := none } else b
    stores := shop.stores.erase s.id }

/-- Closes a store. -/
def closeStore (action : String) (id : Option String) : Act Unit := do
  let s ← theStore action id
  modify (·.without s)

end Shop

end Shopfloor
