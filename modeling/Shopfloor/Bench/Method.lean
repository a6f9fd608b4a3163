import Shopfloor.Bench.Row
/-!
# Methods of Records

What a record on the bench can be asked to do.

A record that takes another in holds that record itself, under the id it has
at the time. Letting a customer or a basket go concerns that record and no
other: one that merely has the same id stays. A method that fails changes
nothing.

The arguments are values of any sort. Amounts are added and compared as
amounts, and whatever else a method is given ends up where it was meant to go,
unless no sense can be made of it.

## Main definitions

* `Method`: What a record is asked to do.
* `Bench.ask`: What comes of it, and the record afterwards.
* `Bench.call`, `Bench.same`: Asks the record that a handle holds.
-/

namespace Shopfloor

/-- What a record is asked to do. -/
inductive Method
  | addAisle (aisle : Value)
  | getAisle (number : Value)
  | getShelf (number id : Value)
  | addInventory (inventory : Value)
  | addCustomer (customer : Value)
  | getCustomer (id : Value)
  | removeCustomer (customer : Value)
  | addBasket (basket : Value)
  | removeBasket (basket : Value)
  | addDevice (device : Value)
  | addShelf (shelf : Value)
  | shelfOf (id : Value)
  | adjust (delta action : Value)
  | moveTo (spot : Value)
  | addProduct (product quantity : Value)
  | removeProduct (product quantity : Value)
  | itemCount
  | supportsCommands
deriving Repr

/-- The action that a change of a count is when none is named. -/
def Method.adjustAction : Value := .text "Update Inventory"

namespace Bench

/-- What a record answers, and the record afterwards. -/
abbrev Response := Except Mishap (Value × Card)

/-- The words for a field of a record. -/
def wordsOf (b : Bench) (c : Card) (field : String) : Except Mishap String := do
  b.words (← Mishap.orSenseless (c.get? field))

/-- The map in a field of a record. -/
def mapOf (c : Card) (field : String) : Except Mishap (Entries Value) :=
  Mishap.orSenseless ((c.get? field).bind Value.entries?)

/-- A single value, which is what maps have for keys. -/
def keyOf (v : Value) : Except Mishap Atom := Mishap.orSenseless v.atom?

/-- The amount that a value is. -/
def amountOf (v : Value) : Except Mishap Amount := Mishap.orSenseless v.amount?

/-- Takes a record into a map under its id, or fails if the id is taken. The failure is told in the
    words for the record that takes it in and for the id. -/
def takeIn (b : Bench) (c : Card) (map own id : String) (x : Value)
    (taken : String → String → Mishap) : Response := do
  let key ← keyOf (← b.fieldOf x id)
  let entries ← mapOf c map
  if (entries.find? key).isSome then
    throw (taken (← b.wordsOf c own) (← b.words (.atom key)))
  return (x, c.put map (.map (entries.insert key x)))

/-- The value under a key of a map, or a failure told in words. -/
def lookUp (b : Bench) (c : Card) (map own : String) (key : Value)
    (absent : String → String → Mishap) : Except Mishap Value := do
  match (← mapOf c map).find? (← keyOf key) with
  | some v => if v.isNull then throw (absent (← b.wordsOf c own) (← b.words key)) else return v
  | none => throw (absent (← b.wordsOf c own) (← b.words key))

/-- Takes a record out of a map, if it is the one under its id. -/
def letGo (b : Bench) (c : Card) (map : String) (x : Value) : Response := do
  let key ← keyOf (← b.fieldOf x "id")
  let entries ← mapOf c map
  match entries.find? key, x with
  | some (.card r), .card s =>
    return (.null, if r = s then c.put map (.map (entries.erase key)) else c)
  | _, _ => return (.null, c)

/-- The failure that a fault is. -/
def ofFault : Fault → Mishap
  | .failure action cause => .failed (cause.report action)
  | .badRecord flaws => .refused flaws
  | .badValue flaw => .badValue flaw

/-- The shelf under an id of an aisle. -/
def shelfOf (b : Bench) (c : Card) (id : Value) : Except Mishap Value :=
  b.lookUp c "shelves" "number" id fun number id => ofFault (Aisle.shelfAbsent number (some id))

/-- The aisle under a number of a store. -/
def aisleOf (b : Bench) (c : Card) (number : Value) : Except Mishap Value :=
  b.lookUp c "aisles" "id" number fun id number => ofFault (Store.aisleAbsent id (some number))

/-- What a store does. -/
def askStore (b : Bench) (c : Card) : Method → Response
  | .addAisle x => b.takeIn c "aisles" "id" "number" x fun id number =>
    ofFault (Store.aislePresent id number)
  | .getAisle number => do return (← b.aisleOf c number, c)
  | .getShelf number id => do
    match ← b.aisleOf c number with
    | .card r => return (← b.shelfOf (← b.at? r) id, c)
    | _ => throw .senseless
  | .addInventory x => b.takeIn c "inventory" "id" "id" x fun _ id =>
    ofFault (Store.inventoryPresent id)
  | .addCustomer x => b.takeIn c "customers" "id" "id" x fun store id =>
    .failed ((Cause.alreadyInStore .customer store id).report "Add Customer")
  | .getCustomer id => do
    let x ← b.lookUp c "customers" "id" id fun store id =>
      .failed ((Cause.notInThatStore store id).report "Get Customer")
    return (x, c)
  | .removeCustomer x => b.letGo c "customers" x
  | .addBasket x => b.takeIn c "baskets" "id" "id" x fun store id =>
    .failed ((Cause.alreadyInStore .basket store id).report "Add Basket")
  | .removeBasket x => b.letGo c "baskets" x
  | .addDevice x => b.takeIn c "devices" "id" "id" x fun _ id => ofFault (Store.devicePresent id)
  | _ => .error .senseless

/-- What an aisle does. -/
def askAisle (b : Bench) (c : Card) : Method → Response
  | .addShelf x => b.takeIn c "shelves" "number" "id" x fun number id =>
    ofFault (Aisle.shelfPresent number id)
  | .shelfOf id => do return (← b.shelfOf c id, c)
  | _ => .error .senseless

/-- A refusal of an argument, with the words for the reason. -/
def invalid {α : Type} (action reason : String) : Except Mishap α :=
  .error (.failed (.plain .invalidArgument action reason))

/-- Changes the count of an inventory: the whole change, or a refusal. -/
def adjust (b : Bench) (c : Card) (delta action : Value) : Response := do
  let old ← Mishap.orSenseless (c.get? "count")
  let limit ← Mishap.orSenseless (c.get? "capacity")
  let new ← Mishap.orSenseless ((← amountOf old).add? (← amountOf delta))
  if new.less (.whole 0) then
    let reason := belowZeroText (← b.wordsOf c "id") (← b.words old) (← delta.tell.change)
    invalid (← b.words action) reason
  else if (← amountOf limit).less new then
    let reason := aboveCapacityText (← b.wordsOf c "id") (← b.words old) (← delta.tell.change)
      (← b.words limit)
    invalid (← b.words action) reason
  else return (.ofAmount new, c.put "count" (.ofAmount new))

/-- Whether an amount is zero or less. -/
def isSpent (a : Amount) : Bool := a.less (.whole 0) || a.isZero

/-- Puts units of a product into a basket: how many are in it afterwards. -/
def addProduct (b : Bench) (c : Card) (product quantity : Value) : Response := do
  let amount ← amountOf quantity
  if isSpent amount then
    invalid "Add Basket Product" (notPositiveText (← b.words quantity))
  else
    let key ← keyOf product
    let lines ← mapOf c "products"
    let held ← amountOf ((lines.find? key).getD (.ofAmount (.whole 0)))
    let sum := Value.ofAmount (← Mishap.orSenseless (held.add? amount))
    return (sum, c.put "products" (.map (lines.insert key sum)))

/-- Takes units of a product out of a basket: how many are in it afterwards. -/
def removeProduct (b : Bench) (c : Card) (product quantity : Value) : Response := do
  let key ← keyOf product
  let lines ← mapOf c "products"
  let held := (lines.find? key).getD .null
  if held.isNull then
    let reason := notInBasketText (← b.words product) (← b.wordsOf c "id")
    throw (.failed (.plain .notFound "Remove Basket Product" reason))
  let amount ← amountOf quantity
  let available ← amountOf held
  if isSpent amount || available.less amount then
    invalid "Remove Basket Product"
      (invalidQuantityText (← b.words quantity) (← b.words product) (← b.words held))
  else
    let rest ← Mishap.orSenseless (available.subtract? amount)
    let lines := if rest.isZero then lines.erase key else lines.insert key (.ofAmount rest)
    return (.ofAmount rest, c.put "products" (.map lines))

/-- The units in a basket, of all products together. -/
def itemCount (c : Card) : Except Mishap Amount := do
  (← mapOf c "products").foldlM
    (fun sum e => do Mishap.orSenseless (sum.add? (← amountOf e.2))) (.whole 0)

/-- What a record answers, and the record afterwards. -/
def ask (b : Bench) (c : Card) (m : Method) : Response :=
  match c.kind, m with
  | .store, m => b.askStore c m
  | .aisle, m => b.askAisle c m
  | .inventory, .adjust delta action => b.adjust c delta action
  | .customer, .moveTo spot =>
    .ok (.null, (c.put "store_location" spot).put "last_seen" (.atom (.moment (.tick b.clock))))
  | .basket, .addProduct product quantity => b.addProduct c product quantity
  | .basket, .removeProduct product quantity => b.removeProduct c product quantity
  | .basket, .itemCount => do return (.ofAmount (← itemCount c), c)
  | .device, .supportsCommands => do
    let kind ← Mishap.orSenseless (c.get? "kind")
    return (.atom (.bool (kind.agrees (.text (Choice.text DeviceKind.appliance)))), c)
  | _, _ => .error .senseless

/-- Asks the record that a handle holds: its answer, and the bench afterwards. -/
def callRaw (b : Bench) (handle : String) (m : Method) : Except Mishap (Value × Bench) := do
  let r ← b.held handle
  let (answer, c) ← b.ask (← b.at? r) m
  return (answer, { b.put r c with clock := b.clock + 1 })

/-- Asks the record that a handle holds: its answer spread out, and the bench afterwards. -/
def call (b : Bench) (handle : String) (m : Method) : Except Mishap (Value × Bench) := do
  let (answer, b) ← b.callRaw handle m
  return (b.spread answer, b)

/-- Whether the answer of a record is the very record that a handle holds. -/
def same (b : Bench) (expected handle : String) (m : Method) : Except Mishap (Bool × Bench) := do
  let r ← b.held expected
  let (answer, b) ← b.callRaw handle m
  return (match answer with
    | .card s => r == s
    | _ => false, b)

end Bench

end Shopfloor
