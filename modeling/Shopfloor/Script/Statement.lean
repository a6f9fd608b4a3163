import Shopfloor.Script.Command
import Shopfloor.Shop.Operation
/-!
# Statements

What a command asks of the shop, and how the answer is shown.

Each form of command has a name and a rule that reads its arguments. The rules
are a table, and a command whose name the table does not hold is unknown.
Where several arguments are missing or malformed, the refusal is about the one
that the rule reads first: compound ids come before other arguments, since
they are taken apart before anything is handed on.

What is shown is the record itself, the lines of a basket, or a sentence that
confirms what was done.

## Main definitions

* `Script.Display`, `Script.Statement`: What is asked and how it is shown.
* `Script.forms`: The rules by name.
* `Script.Statement.ofCommand`: What a command asks.
* `Script.confirmation`: The sentence for what was done.
* `Script.Statement.answer`: What is shown.
-/

namespace Shopfloor

namespace Script

/-- How the answer to a command is shown. -/
inductive Display
  /-- The record in words. -/
  | record
  /-- The lines of a basket. -/
  | items
  /-- A sentence that says what was done. -/
  | confirmation
deriving DecidableEq, Repr

/-- What a command asks of the shop. -/
structure Statement where
  operation : Operation
  display : Display
deriving DecidableEq, Repr

/-- A rule that reads the arguments of a command. -/
abbrev Form := Command → Except Fault Statement

/-- A statement that shows a record. -/
def shows (op : Operation) : Statement := ⟨op, .record⟩

/-- A statement that is confirmed. -/
def confirms (op : Operation) : Statement := ⟨op, .confirmation⟩

def defineStore : Form := fun c => do
  let id ← c.id
  let name ← c.arg "name"
  let address ← c.arg "address"
  return confirms (.provisionStore id name address)

def defineAisle : Form := fun c => do
  let spot ← c.aisleSpot (← c.id)
  let name ← c.arg "name"
  return confirms (.provisionAisle spot.store spot.aisle name (c.argOrEmpty "description")
    (c.args.get? "location"))

def defineShelf : Form := fun c => do
  let spot ← c.shelfSpot (← c.id)
  let name ← c.arg "name"
  let level ← c.arg "level"
  let temperature ← c.arg "temperature"
  return confirms (.provisionShelf spot.store spot.aisle spot.shelf name level
    (c.argOrEmpty "description") temperature)

def defineProduct : Form := fun c => do
  let id ← c.id
  let name ← c.arg "name"
  let price ← c.number "unit_price"
  let temperature ← c.arg "temperature"
  return confirms (.provisionProduct id name (c.argOrEmpty "description") (c.argOrEmpty "size")
    (c.argOrEmpty "category") price temperature)

def defineInventory : Form := fun c => do
  let spot ← c.shelfSpot (← c.arg "location")
  let id ← c.id
  let capacity ← c.integer "capacity"
  let count ← c.integer "count"
  let product ← c.arg "product"
  return confirms (.provisionInventory id spot.store spot.aisle spot.shelf capacity count product
    (c.args.get? "type"))

def defineCustomer : Form := fun c => do
  let id ← c.id
  let firstName ← c.arg "first_name"
  let lastName ← c.arg "last_name"
  let type ← c.arg "type"
  let email ← c.arg "email_address"
  let account ← c.arg "account"
  return confirms (.provisionCustomer id firstName lastName type email account)

def defineBasket : Form := fun c => return confirms (.provisionBasket (← c.id))

def defineDevice : Form := fun c => do
  let spot ← c.aisleSpot (← c.arg "location")
  let id ← c.id
  let name ← c.arg "name"
  let type ← c.arg "type"
  return confirms (.provisionDevice id name type spot.store spot.aisle)

def showStore : Form := fun c => return shows (.showStore (← c.id))

def showAisle : Form := fun c => do
  let spot ← c.aisleSpot (← c.id)
  return shows (.showAisle spot.store spot.aisle)

def showShelf : Form := fun c => do
  let spot ← c.shelfSpot (← c.id)
  return shows (.showShelf spot.store spot.aisle spot.shelf)

def showProduct : Form := fun c => return shows (.showProduct (← c.id))

def showInventory : Form := fun c => return shows (.showInventory (← c.id))

def showCustomer : Form := fun c => return shows (.showCustomer (← c.id))

def showBasket : Form := fun c => return shows (.showBasket (← c.id))

def showBasketItems : Form := fun c => return ⟨.showBasket (← c.id), .items⟩

def showDevice : Form := fun c => return shows (.showDevice (← c.id))

def updateStore : Form := fun c => do
  -- That there is nothing to change is told even of a command without an id.
  let description := c.args.get? "description"
  let address := c.args.get? "address"
  if description.isNone && address.isNone then throw (.unreadable c.line .nothingToUpdate)
  return confirms (.updateStore (← c.id) description address)

def updateInventory : Form := fun c => do
  let id ← c.id
  let delta ← c.integer "update_count"
  return confirms (.updateInventory id delta)

def updateCustomer : Form := fun c => do
  let spot ← c.aisleSpot (← c.arg "location")
  return confirms (.updateCustomer (← c.id) spot.store spot.aisle)

def deleteStore : Form := fun c => return confirms (.deleteStore (← c.id))

def assignBasket : Form := fun c => do
  let customer ← c.arg "customer"
  return confirms (.assignCustomerBasket customer (← c.id))

def getCustomerBasket : Form := fun c => return shows (.getCustomerBasket (← c.id))

def addBasketItem : Form := fun c => do
  let product ← c.arg "product"
  let quantity ← c.integer "item_count"
  return confirms (.addBasketProduct (← c.id) product quantity)

def removeBasketItem : Form := fun c => do
  let product ← c.arg "product"
  let quantity ← c.integer "item_count"
  return confirms (.removeBasketProduct (← c.id) product quantity)

def clearBasket : Form := fun c => return confirms (.clearBasket (← c.id))

def createEvent : Form := fun c => do
  let id ← c.id
  return confirms (.raiseEvent id (← c.arg "event"))

def createCommand : Form := fun c => do
  let id ← c.id
  return confirms (.issueCommand id (← c.arg "message"))

/-- The forms of command by name. -/
def forms : List (String × Form) := [
  ("define store", defineStore),
  ("define aisle", defineAisle),
  ("define shelf", defineShelf),
  ("define product", defineProduct),
  ("define inventory", defineInventory),
  ("define customer", defineCustomer),
  ("define basket", defineBasket),
  ("define device", defineDevice),
  ("show store", showStore),
  ("show aisle", showAisle),
  ("show shelf", showShelf),
  ("show product", showProduct),
  ("show inventory", showInventory),
  ("show customer", showCustomer),
  ("show basket", showBasket),
  ("show basket_items", showBasketItems),
  ("show device", showDevice),
  ("update store", updateStore),
  ("update inventory", updateInventory),
  ("update customer", updateCustomer),
  ("delete store", deleteStore),
  ("assign basket", assignBasket),
  ("get_customer_basket", getCustomerBasket),
  ("add_basket_item", addBasketItem),
  ("remove_basket_item", removeBasketItem),
  ("clear_basket", clearBasket),
  ("create_event", createEvent),
  ("create command", createCommand)]

/-- What a command asks. -/
def Statement.ofCommand (c : Command) : Except Fault Statement :=
  match forms.lookup c.name with
  | some form => form c
  | none => .error (.unreadable c.line (.unknownCommand c.name))

/-- What a line asks. -/
def Statement.read (line : String) : Except Fault Statement := do
  Statement.ofCommand (← Command.read line)

/-- The sentence for what was done. Looking something up has none. -/
def confirmation : Operation → Reply → String
  | .provisionStore .., .store s => s!"Store {s.id} provisioned"
  | .updateStore .., .store s => s!"Store {s.id} updated"
  | .deleteStore id, _ => "Store " ++ shown id ++ " deleted"
  | .provisionAisle store .., .aisle a => "Aisle " ++ shown store ++ s!":{a.number} provisioned"
  | .provisionShelf store number .., .shelf s =>
    "Shelf " ++ shown store ++ ":" ++ shown number ++ s!":{s.id} provisioned"
  | .provisionProduct .., .product p => s!"Product {p.id} provisioned"
  | .provisionInventory .., .inventory i => s!"Inventory {i.id} provisioned"
  | .updateInventory .., .inventory i => s!"Inventory {i.id} updated, count {i.count}"
  | .provisionCustomer .., .customer c => s!"Customer {c.id} provisioned"
  | .updateCustomer .., .customer c =>
    s!"Customer {c.id} moved to " ++ shown (c.spot.map AisleSpot.text)
  | .provisionBasket .., .basket b => s!"Basket {b.id} provisioned"
  | .assignCustomerBasket .., .basket b =>
    s!"Basket {b.id} assigned to customer " ++ shown b.customer
  | .addBasketProduct _ product quantity, .basket b =>
    s!"Basket {b.id}: added " ++ shownInt quantity ++ " x " ++ shown product
  | .removeBasketProduct _ product quantity, .basket b =>
    s!"Basket {b.id}: removed " ++ shownInt quantity ++ " x " ++ shown product
  | .clearBasket .., .basket b => s!"Basket {b.id} cleared"
  | .provisionDevice .., .device d => s!"Device {d.id} provisioned as " ++ Choice.text d.kind
  | .raiseEvent .., .event e => s!"Device {e.device} raised event: " ++ shown e.message
  | .issueCommand .., .event e => s!"Device {e.device} received command: " ++ shown e.message
  | _, _ => ""

/-- What is shown for a reply. -/
def Statement.answer (s : Statement) (reply : Reply) : Except Fault String :=
  match s.display, reply with
  | .items, .basket b => b.itemList
  | .confirmation, reply => .ok (confirmation s.operation reply)
  | _, reply => reply.describe

end Script

end Shopfloor
