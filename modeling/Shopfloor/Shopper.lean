import Shopfloor.Choice
import Shopfloor.Keyed
import Shopfloor.Location
/-!
# Customers and Baskets

Shoppers and what they carry. A customer and a basket belong together by id on
both sides. A line of a basket says how many units of a product it holds; a
line that would come to zero is taken out.

The units of a line may add up to a number too long to be written. A basket
with such a line has no description.

## Main definitions

* `Customer`, `Basket`: The records.
* `Customer.moveTo`: A customer now stands in an aisle.
* `Basket.add`, `Basket.remove`: Units of a product go in or out.
* `Customer.describe`, `Basket.describe`, `Basket.itemList`: The records in words.
-/

namespace Shopfloor

/-- A shopper, perhaps standing in an aisle, perhaps holding a basket. -/
structure Customer where
  id : String
  firstName : String
  lastName : String
  type : CustomerType
  email : String
  account : String
  ageGroup : Option AgeGroup
  spot : Option AisleSpot
  /-- Whether the customer was ever seen in an aisle. -/
  seen : Bool
  basket : Option String
deriving DecidableEq, Repr

/-- A basket, with its lines in the order in which products came in. -/
structure Basket where
  id : String
  customer : Option String
  store : Option String
  lines : Keyed Int
deriving DecidableEq, Repr

/-- A customer now stands in an aisle. -/
def Customer.moveTo (c : Customer) (spot : AisleSpot) : Customer :=
  { c with spot := some spot, seen := true }

/-- The units of a product in a basket. -/
def Basket.quantity (b : Basket) (product : String) : Int := (b.lines.get? product).getD 0

/-- The units in a basket, of all products together. -/
def Basket.itemCount (b : Basket) : Int := b.lines.values.foldl (· + ·) 0

/-- Puts units of a product into a basket. -/
def Basket.add (b : Basket) (product : String) (quantity : Int) : Except Fault Basket :=
  if quantity ≤ 0 then
    .error (Cause.fault "Add Basket Product" (.quantityNotPositive (some quantity)))
  else .ok { b with lines := b.lines.insert product (b.quantity product + quantity) }

/-- Takes units of a product out of a basket. -/
def Basket.remove (b : Basket) (product : String) (quantity : Int) : Except Fault Basket :=
  match b.lines.get? product with
  | none => .error (.failure "Remove Basket Product" (.notInBasket (some product) b.id))
  | some held =>
    if quantity ≤ 0 ∨ held < quantity then
      .error (Cause.fault "Remove Basket Product" (.invalidQuantity (some quantity) product held))
    else if held - quantity = 0 then .ok { b with lines := b.lines.erase product }
    else .ok { b with lines := b.lines.insert product (held - quantity) }

/-- What is written where there is no id. -/
def dash : String := "-"

/-- An id in words; nothing and the empty id are both written as a dash. -/
def orDash : Option String → String
  | some "" => dash
  | some s => s
  | none => dash

/-- The words for a customer who stands nowhere. -/
def Customer.nowhere : String := "not in store"

/-- The words for a customer, given those for the fields. -/
def Customer.phrase (id firstName lastName type email account spot basket : String) : String :=
  s!"Customer {id} {firstName} {lastName} type={type} email={email} account={account} "
    ++ s!"location={spot} basket={basket}"

/-- A customer in words. -/
def Customer.describe (c : Customer) : String :=
  phrase c.id c.firstName c.lastName (Choice.text c.type) c.email c.account
    ((c.spot.map AisleSpot.text).getD nowhere) (orDash c.basket)

/-- Whether every line of a basket can be written. -/
def Basket.isWritable (b : Basket) : Bool := b.lines.values.all Number.writable

/-- The words for a line of a basket. -/
def Basket.linePhrase (product quantity : String) : String := s!"{product} x{quantity}"

/-- The words for a basket, given those for its fields and for each of its lines. -/
def Basket.phrase (id customer store : String) (lines : List String) : String :=
  let items := if lines.isEmpty then "empty" else ", ".intercalate lines
  s!"Basket {id} customer={customer} store={store} items=[{items}]"

/-- A basket in words, its lines in the order of their products. -/
def Basket.describe (b : Basket) : Except Fault String :=
  if b.isWritable then
    .ok (phrase b.id (orDash b.customer) (orDash b.store)
      (b.lines.sorted.map fun (product, quantity) => linePhrase product (toString quantity)))
  else .error (.badValue .longNumber)

/-- The lines of a basket, one under the other. -/
def Basket.itemList (b : Basket) : Except Fault String :=
  if b.lines.isEmpty then .ok s!"Basket {b.id} is empty"
  else if b.isWritable then
    let items := b.lines.sorted.map fun (product, quantity) => s!"  {product}: {quantity}"
    .ok ("\n".intercalate (s!"Basket {b.id} items:" :: items))
  else .error (.badValue .longNumber)

end Shopfloor
