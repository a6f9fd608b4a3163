import Shopfloor.Choice
import Shopfloor.Location
/-!
# Products and Stock

The catalogue and what is on the shelves. An inventory is the stock of one
product on one shelf; its count never leaves the range from zero to capacity
by a change, because a change that would leave it is refused as a whole. Nothing
bounds the range itself, so an inventory can have numbers too long to be written,
and then it has no description.

## Main definitions

* `Product`, `Inventory`: The records.
* `Inventory.change`: Adds to a count or takes from it.
* `Product.describe`, `Inventory.describe`: The records in words.
-/

namespace Shopfloor

/-- A product of the catalogue. -/
structure Product where
  id : String
  name : String
  description : String
  size : String
  category : String
  price : Binary64
  temperature : Temperature
deriving DecidableEq, Repr

/-- The stock of one product on one shelf. -/
structure Inventory where
  id : String
  spot : ShelfSpot
  capacity : Int
  count : Int
  product : String
  type : InventoryType
deriving DecidableEq, Repr

/-- The count can be changed by `delta`: the whole change, or a refusal. -/
def Inventory.change (i : Inventory) (delta : Int) (action : String) : Except Fault Inventory :=
  if i.count + delta < 0 then .error (Cause.fault action (.belowZero i.id i.count delta))
  else if i.capacity < i.count + delta then
    .error (Cause.fault action (.aboveCapacity i.id i.count delta i.capacity))
  else .ok { i with count := i.count + delta }

/-- How many more units an inventory can take. -/
def Inventory.room (i : Inventory) : Int := i.capacity - i.count

/-- A price as it stands on a tag. -/
def priceTag (price : Binary64) : String := Number.writePlaces 2 price

/-- The words for a product, given those for its fields. -/
def Product.phrase (id name size category price temperature description : String) : String :=
  s!"Product {id} '{name}' size={size} category={category} price={price} "
    ++ s!"temperature={temperature} - {description}"

/-- A product in words. -/
def Product.describe (p : Product) : String :=
  phrase p.id p.name p.size p.category (priceTag p.price) (Choice.text p.temperature) p.description

/-- The words for an inventory, given those for its fields. -/
def Inventory.phrase (id spot product count capacity type : String) : String :=
  s!"Inventory {id} at {spot} product={product} count={count}/{capacity} type={type}"

/-- Whether the numbers of an inventory can be written. -/
def Inventory.isWritable (i : Inventory) : Bool :=
  Number.writable i.count && Number.writable i.capacity

/-- An inventory in words. -/
def Inventory.describe (i : Inventory) : Except Fault String :=
  if i.isWritable then
    .ok (phrase i.id i.spot.text i.product (toString i.count) (toString i.capacity)
      (Choice.text i.type))
  else .error (.badValue .longNumber)

end Shopfloor
