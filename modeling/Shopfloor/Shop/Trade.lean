import Shopfloor.Shop
/-!
# Trade

Units that go from a shelf into a basket and back.

Which inventory a product comes from or goes back to is settled by where the
customer stands: of the inventories of the product the one with the least id
in that aisle, or, if the aisle has none, the one with the least id anywhere.
Goods are only handed over in the aisle, so the second choice is refused for
taking and for putting back; it serves when a basket is emptied, which may be
done from anywhere.

A basket that is emptied gives back as much as the chosen inventory has room
for. What is beyond the room, and what no inventory holds any more, is lost.

## Main definitions

* `Shop.standing`: Where the owner of a basket stands.
* `Shop.choose`: The inventory that a product is taken from.
* `Shop.takeIntoBasket`, `Shop.putBackFromBasket`: Units of a product in and out.
* `Shop.emptyBasket`: All units out.
-/

namespace Shopfloor

namespace Shop

/-- Where the owner of a basket stands. The empty id owns nothing. -/
def standing (shop : Shop) (b : Basket) : Option AisleSpot :=
  match b.customer with
  | none | some "" => none
  | some c => (shop.customers.get? c).bind (·.spot)

/-- Of the inventories of a product the first in an aisle, or else the first of all. -/
def choose (stock : List Inventory) (spot : Option AisleSpot) : Option Inventory :=
  match spot.bind fun s => stock.find? fun i => i.spot.inAisle == s with
  | some i => some i
  | none => stock.head?

/-- The inventory that a product is taken from or put back to. -/
def resolve (action : String) (product : String) (spot : Option AisleSpot) : Act Inventory := do
  match choose ((← get).stockOf product) spot with
  | some i => pure i
  | none => Act.fail action (.noStock (some product))

/-- Goods are handed over in the aisle in which the owner of the basket stands. -/
def checkTogether (action : String) (b : Basket) (i : Inventory) (spot : Option AisleSpot) :
    Act Unit := do
  match b.customer, spot with
  | none, _ => Act.fail action (.unassigned b.id)
  | some c, none => Act.fail action (.notInStore c)
  | some _, some s =>
    if i.spot.inAisle ≠ s then
      Act.fail action (.apart s.text i.id i.spot.inAisle.text)

/-- Takes units of a product from the shelf into a basket. -/
def takeIntoBasket (action : String) (basket product : Option String) (quantity : Option Int) :
    Act Basket := do
  let b ← theBasket action basket
  let q ← match quantity with
    | some q => if q ≤ 0 then Act.fail action (.quantityNotPositive quantity) else pure q
    | none => Act.fail action (.quantityNotPositive none)
  let p ← match product with
    | some p => pure p
    | none => Act.fail action (.noStock none)
  -- Whether there is stock at all is told before whether the customer stands beside it.
  let spot := (← get).standing b
  let i ← resolve action p spot
  checkTogether action b i spot
  if i.count < q then Act.fail action (.notEnough p q i.count)
  -- The units leave the shelf and arrive in the basket.
  let i ← Act.ofExcept (i.change (-q) action)
  modify (·.putInventory i)
  let b ← Act.ofExcept (b.add p q)
  modify (·.putBasket b)
  return b

/-- Puts units of a product from a basket back on the shelf. -/
def putBackFromBasket (action : String) (basket product : Option String)
    (quantity : Option Int) : Act Basket := do
  let b ← theBasket action basket
  let (p, held) ← match product, b.lines.find? product with
    | some p, some held => pure (p, held)
    | _, _ => Act.fail action (.notInBasket product b.id)
  let q ← match quantity with
    | some q =>
      if q ≤ 0 ∨ held < q then Act.fail action (.invalidQuantity quantity p held) else pure q
    | none => Act.fail action (.invalidQuantity none p held)
  -- The shelf may have filled up meanwhile, which its change refuses.
  let spot := (← get).standing b
  let i ← resolve action p spot
  checkTogether action b i spot
  let i ← Act.ofExcept (i.change q action)
  modify (·.putInventory i)
  let b ← Act.ofExcept (b.remove p q)
  modify (·.putBasket b)
  return b

/-- Gives the units of one line back, as far as there is room. -/
def returnLine (action : String) (spot : Option AisleSpot) (product : String) (quantity : Int) :
    Act Unit := do
  match choose ((← get).stockOf product) spot with
  | none => pure ()
  | some i =>
    let i ← Act.ofExcept (i.change (min quantity i.room) action)
    modify (·.putInventory i)

/-- Empties a basket, giving its units back as far as there is room. -/
def emptyBasket (action : String) (basket : Option String) : Act Basket := do
  let b ← theBasket action basket
  let spot := (← get).standing b
  b.lines.entries.forM fun (product, quantity) => returnLine action spot product quantity
  let b := { b with lines := .empty }
  modify (·.putBasket b)
  return b

end Shop

end Shopfloor
