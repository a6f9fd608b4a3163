import Shopfloor.Shop.Movement
import Shopfloor.Shop.Provision
import Shopfloor.Shop.Trade
/-!
# Operations

Everything that can be asked of the shop, as data, and what the shop does when
it is asked.

An operation carries its arguments as they were given: ids and texts may be
missing, choices are texts in any spelling, numbers are read already. Whoever
asks shows a token. A token that is missing or blank is refused before
anything else is looked at.

A line is written about every operation that is done. The lines are not kept here,
but three of them name a number, and such a line cannot be written if the number is
too long. The operation ends in that then, although it is done.

## Main definitions

* `Operation`: What can be asked of the shop.
* `Reply`: What the shop answers.
* `Operation.logged`: The numbers that are written about an operation.
* `Shop.checkToken`: The test that comes first.
* `Shop.attempt`: What the shop does.
* `Shop.perform`: What the shop does, and the line about it.
* `Shop.run`: How an operation ends in a shop, and the shop afterwards.
-/

namespace Shopfloor

/-- What can be asked of the shop. -/
inductive Operation
  | provisionStore (id name address : Option String)
  | showStore (id : Option String)
  | updateStore (id description address : Option String)
  | deleteStore (id : Option String)
  | provisionAisle (store number name description location : Option String)
  | showAisle (store number : Option String)
  | provisionShelf (store number id name level description temperature : Option String)
  | showShelf (store number id : Option String)
  | provisionProduct (id name description size category : Option String)
      (price : Option Binary64) (temperature : Option String)
  | showProduct (id : Option String)
  | provisionInventory (id store number shelf : Option String) (capacity count : Option Int)
      (product type : Option String)
  | showInventory (id : Option String)
  | updateInventory (id : Option String) (delta : Int)
  | provisionCustomer (id firstName lastName type email account : Option String)
  | showCustomer (id : Option String)
  | updateCustomer (id store number : Option String)
  | provisionBasket (id : Option String)
  | showBasket (id : Option String)
  | getCustomerBasket (customer : Option String)
  | assignCustomerBasket (customer basket : Option String)
  | addBasketProduct (basket product : Option String) (quantity : Option Int)
  | removeBasketProduct (basket product : Option String) (quantity : Option Int)
  | clearBasket (basket : Option String)
  | provisionDevice (id name : Option String) (type : String) (store number : Option String)
  | showDevice (id : Option String)
  | raiseEvent (device event : Option String)
  | issueCommand (device command : Option String)
deriving DecidableEq, Repr

/-- The action that an operation is, as messages name it. -/
def Operation.action : Operation → String
  | .provisionStore .. => "Provision Store"
  | .showStore .. => "Show Store"
  | .updateStore .. => "Update Store"
  | .deleteStore .. => "Delete Store"
  | .provisionAisle .. => "Provision Aisle"
  | .showAisle .. => "Show Aisle"
  | .provisionShelf .. => "Provision Shelf"
  | .showShelf .. => "Show Shelf"
  | .provisionProduct .. => "Provision Product"
  | .showProduct .. => "Show Product"
  | .provisionInventory .. => "Provision Inventory"
  | .showInventory .. => "Show Inventory"
  | .updateInventory .. => "Update Inventory"
  | .provisionCustomer .. => "Provision Customer"
  | .showCustomer .. => "Show Customer"
  | .updateCustomer .. => "Update Customer"
  | .provisionBasket .. => "Provision Basket"
  | .showBasket .. => "Show Basket"
  | .getCustomerBasket .. => "Get Customer Basket"
  | .assignCustomerBasket .. => "Assign Customer Basket"
  | .addBasketProduct .. => "Add Basket Product"
  | .removeBasketProduct .. => "Remove Basket Product"
  | .clearBasket .. => "Clear Basket"
  | .provisionDevice .. => "Provision Device"
  | .showDevice .. => "Show Device"
  | .raiseEvent .. => "Raise Event"
  | .issueCommand .. => "Issue Command"

/-- What the shop answers: a record as it now is, or nothing. -/
inductive Reply
  | store (s : Store)
  | aisle (a : Aisle)
  | shelf (s : Shelf)
  | product (p : Product)
  | inventory (i : Inventory)
  | customer (c : Customer)
  | basket (b : Basket)
  | device (d : Device)
  | event (e : DeviceEvent)
  | nothing
deriving DecidableEq, Repr

/-- The numbers in the line that is written about an operation once it is done. -/
def Operation.logged : Operation → Reply → List Int
  | .updateInventory .., .inventory i => [i.count]
  | .addBasketProduct _ _ quantity, _ | .removeBasketProduct _ _ quantity, _ => quantity.toList
  | _, _ => []

/-- The reply to an operation once its line is written, which a long number prevents. -/
def Operation.recorded (op : Operation) (reply : Reply) : Except Fault Reply :=
  if (op.logged reply).all Number.writable then .ok reply else .error (.badValue .longNumber)

/-- The record of a reply in words. -/
def Reply.describe : Reply → Except Fault String
  | .store s => .ok s.describe
  | .aisle a => .ok a.describe
  | .shelf s => .ok s.describe
  | .product p => .ok p.describe
  | .inventory i => i.describe
  | .customer c => .ok c.describe
  | .basket b => b.describe
  | .device d => .ok d.describe
  | .event e => .ok e.describe
  | .nothing => .ok ""

namespace Shop

/-- Whether a token is one. -/
def isToken (token : Option String) : Bool :=
  match token with
  | some t => !Text.isBlankText t
  | none => false

/-- Refuses a token that is missing or blank. -/
def checkToken (token : Option String) (action : String) : Act Unit :=
  if isToken token then pure () else Act.fail action .tokenMissing

/-- Changes the count of an inventory. -/
def adjustInventory (action : String) (id : Option String) (delta : Int) : Act Inventory := do
  let i ← theInventory action id
  let i ← Act.ofExcept (i.change delta action)
  modify (·.putInventory i)
  return i

/-- Publishes a message in the log. -/
def publish (e : DeviceEvent) : Act DeviceEvent := do
  modify fun shop => { shop with events := shop.events ++ [e] }
  return e

/-- A device reports. -/
def raiseEvent (action : String) (device event : Option String) : Act DeviceEvent := do
  let d ← theDevice action device
  publish (d.message DeviceEvent.eventKind event)

/-- A device is sent a command, which a sensor cannot take. -/
def issueCommand (action : String) (device command : Option String) : Act DeviceEvent := do
  let d ← theDevice action device
  if !d.takesCommands then Act.fail action (.sensor d.id d.type)
  publish (d.message DeviceEvent.commandKind command)

/-- What an operation does once the token has been seen. -/
def carryOut (op : Operation) : Act Reply :=
  let action := op.action
  match op with
  | .provisionStore id name address => .store <$> openStore action id name address
  | .showStore id => .store <$> theStore action id
  | .updateStore id description address => .store <$> updateStore action id description address
  | .deleteStore id => (fun _ => .nothing) <$> closeStore action id
  | .provisionAisle store number name description location =>
    .aisle <$> openAisle action store number name description location
  | .showAisle store number => do
    let s ← theStore action store
    .aisle <$> Act.ofExcept (s.getAisle number)
  | .provisionShelf store number id name level description temperature =>
    .shelf <$> putUpShelf action store number id name level description temperature
  | .showShelf store number id => do
    let s ← theStore action store
    .shelf <$> Act.ofExcept (s.getShelf number id)
  | .provisionProduct id name description size category price temperature =>
    .product <$> addProduct action id name description size category price temperature
  | .showProduct id => .product <$> theProduct action id
  | .provisionInventory id store number shelf capacity count product type =>
    .inventory <$> addInventory action id store number shelf capacity count product type
  | .showInventory id => .inventory <$> theInventory action id
  | .updateInventory id delta => .inventory <$> adjustInventory action id delta
  | .provisionCustomer id firstName lastName type email account =>
    .customer <$> addCustomer action id firstName lastName type email account
  | .showCustomer id => .customer <$> theCustomer action id
  | .updateCustomer id store number => .customer <$> moveCustomer action id store number
  | .provisionBasket id => .basket <$> addBasket action id
  | .showBasket id => .basket <$> theBasket action id
  | .getCustomerBasket customer => .basket <$> customerBasket action customer
  | .assignCustomerBasket customer basket => .basket <$> assignBasket action customer basket
  | .addBasketProduct basket product quantity =>
    .basket <$> takeIntoBasket action basket product quantity
  | .removeBasketProduct basket product quantity =>
    .basket <$> putBackFromBasket action basket product quantity
  | .clearBasket basket => .basket <$> emptyBasket action basket
  | .provisionDevice id name type store number =>
    .device <$> installDevice action id name type store number
  | .showDevice id => .device <$> theDevice action id
  | .raiseEvent device event => .event <$> raiseEvent action device event
  | .issueCommand device command => .event <$> issueCommand action device command

/-- What the shop does when it is asked for an operation. -/
def attempt (token : Option String) (op : Operation) : Act Reply := do
  checkToken token op.action
  carryOut op

/-- What the shop does, and what is written about it. The line is written when everything is done,
    and nothing is undone if it cannot be written. -/
def perform (token : Option String) (op : Operation) : Act Reply := do
  let reply ← attempt token op
  Act.ofExcept (op.recorded reply)

/-- How an operation ends in a shop, and the shop afterwards. -/
def run (token : Option String) (op : Operation) (shop : Shop) : Except Fault Reply × Shop :=
  (perform token op).runIn shop

/-- The shop after operations that were asked for one after the other. -/
def runAll (shop : Shop) (calls : List (Option String × Operation)) : Shop :=
  calls.foldl (fun shop call => (run call.1 call.2 shop).2) shop

end Shop

end Shopfloor
