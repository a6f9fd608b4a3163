import Shopfloor.Bench.Form
import Shopfloor.Device
import Shopfloor.Store
/-!
# Telling Loose Records

Records whose fields may hold anything, in words, and compared with others.

A record is told by the same phrases as the records of a shop, with the words
for whatever its fields hold. Some phrases ask more of a field than that it
has words: a price is laid out as a number, a map is counted or put in order.
Where a field holds something of which that cannot be said, the record has no
words; a text in place of a price is told apart from that, because the attempt
to lay it out has words of its own.

Everything here is about values that are spread out, so that it is said by
recursion on the value. Two records that lie in one place are the same and
need not be compared.

## Main definitions

* `Mishap`: Why nothing comes of an attempt.
* `Told`, `Value.tell`: A value with its words and its written form.
* `RecordKind.describe`: A record in words, given what is told of its fields.
* `Value.agrees`: Whether two values say the same.
-/

namespace Shopfloor

/-- Why nothing comes of an attempt. -/
inductive Mishap
  /-- A handle holds nothing. -/
  | noHandle
  /-- A record refuses what it is asked. -/
  | failed (r : Report)
  /-- A record cannot be made or changed, for fields that are wrong. -/
  | refused (flaws : List (String × FieldFlaw))
  | badValue (flaw : ValueFlaw)
  /-- What was asked makes no sense of the values at hand. -/
  | senseless
deriving DecidableEq, Repr

namespace Mishap

/-- What is there, or no sense. -/
def orSenseless {α : Type} : Option α → Except Mishap α
  | some a => .ok a
  | none => .error .senseless

end Mishap

/-- A value with what can be said of it. -/
structure Told where
  value : Value
  words : Except Mishap String
  /-- The value as it is written inside lists and maps. -/
  written : Except Mishap String

namespace Told

/-- What is told of a value that is written the same everywhere. -/
def plainly (value : Value) (written : Except Mishap String) : Told := ⟨value, written, written⟩

/-- The words for a value, or others where it is no more than nothing. -/
def wordsOr (t : Told) (others : String) : Except Mishap String :=
  if t.value.isFilled then t.words else .ok others

/-- How many things a value holds. -/
def size (t : Told) : Except Mishap Nat := Mishap.orSenseless t.value.size?

/-- A value as it stands on a price tag. -/
def tag (t : Told) : Except Mishap String :=
  match t.value.amount? with
  | some a => do return priceTag (← Mishap.orSenseless a.toBinary?)
  | none =>
    match t.value with
    | .atom (.text _) => .error (.badValue (.wrongForm "f" "str"))
    | _ => .error .senseless

/-- A value as a change, with its sign. -/
def change (t : Told) : Except Mishap String :=
  match t.value.amount? with
  | some (.whole n) =>
    if Number.writable n then .ok (Number.signed n) else .error (.badValue .longNumber)
  | some (.binary _) => .error (.badValue (.wrongForm "d" "float"))
  | none => .error .senseless

end Told

/-- An atom as it is told. -/
def Atom.tell (a : Atom) : Told where
  value := .atom a
  words := a.words.mapError .badValue
  written := a.written.mapError .badValue

/-- The keys of a map, in order, as they are written. -/
def Value.sortedKeys (v : Value) : Except Mishap (List String) := do
  let entries ← Mishap.orSenseless (v.entries?.bind Entries.sorted?)
  entries.mapM fun e => e.1.tell.written

/-- The lines of a map of quantities, in the order of their keys. -/
def Value.sortedLines (v : Value) : Except Mishap (List String) := do
  let entries ← Mishap.orSenseless (v.entries?.bind Entries.sorted?)
  entries.mapM fun e => do
    let quantity ← Mishap.orSenseless e.2.atom?
    return Basket.linePhrase (← e.1.tell.words) (← quantity.tell.words)

/-- The fields of a record as they are written, with their names. -/
def writtenFields (fields : List (String × Told)) : Except Mishap (List String) :=
  fields.mapM fun f => do return f.1 ++ "=" ++ (← f.2.written)

/-- What is told of a field; a field that is missing holds nothing. -/
def fieldTold (fields : List (String × Told)) (name : String) : Told :=
  (fields.lookup name).getD (Atom.tell .null)

/-- A record in words, given what is told of its fields. -/
def RecordKind.describe (kind : RecordKind) (fields : List (String × Told)) :
    Except Mishap String := do
  let told := fieldTold fields
  let words (name : String) : Except Mishap String := (told name).words
  let size (name : String) : Except Mishap Nat := (told name).size
  match kind with
  | .store =>
    return Store.phrase (← words "id") (← words "address") (← words "description")
      (← size "aisles") (← size "inventory") (← size "customers") (← size "baskets")
      (← size "devices")
  | .aisle =>
    return Aisle.phrase (← words "number") (← words "name")
      (← (told "location").wordsOr Aisle.nowhere) (← words "description")
      (← (told "shelves").value.sortedKeys)
  | .shelf =>
    return Shelf.phrase (← words "id") (← words "name") (← words "level") (← words "temperature")
      (← words "description")
  | .product =>
    return Product.phrase (← words "id") (← words "name") (← words "size") (← words "category")
      (← (told "price").tag) (← words "temperature") (← words "description")
  | .inventory =>
    return Inventory.phrase (← words "id") (← words "location") (← words "product_id")
      (← words "count") (← words "capacity") (← words "type")
  | .customer =>
    return Customer.phrase (← words "id") (← words "first_name") (← words "last_name")
      (← words "type") (← words "email") (← words "account")
      (← (told "store_location").wordsOr Customer.nowhere) (← (told "basket_id").wordsOr dash)
  | .basket =>
    return Basket.phrase (← words "id") (← (told "customer_id").wordsOr dash)
      (← (told "store_id").wordsOr dash) (← (told "products").value.sortedLines)
  | .device =>
    return Device.phrase (← words "id") (← words "name") (← words "type") (← words "kind")
      (← words "store_location")
  | .account => return " ".intercalate (← writtenFields fields)
  | .aisleSpot => return AisleSpot.phrase (← words "store_id") (← words "aisle_number")
  | .shelfSpot =>
    return ShelfSpot.phrase (← words "store_id") (← words "aisle_number") (← words "shelf_id")

namespace Value

mutual

/-- A value with what can be said of it. -/
def tell : Value → Told
  | .atom a => a.tell
  | .list items => .plainly (.list items) do return Text.enlist (← tellAll items)
  | .map entries => .plainly (.map entries) do
    return "\x7b" ++ ", ".intercalate (← tellEntries entries) ++ "\x7d"
  | .card r => .plainly (.card r) (.error .senseless)
  | .record r kind fields =>
    let told := tellFields fields
    ⟨.record r kind fields, kind.describe told, do
      return kind.name ++ "(" ++ ", ".intercalate (← writtenFields told) ++ ")"⟩

/-- Values as they are written. -/
def tellAll : List Value → Except Mishap (List String)
  | [] => .ok []
  | v :: vs => do return (← v.tell.written) :: (← tellAll vs)

/-- Entries as they are written. -/
def tellEntries : List (Atom × Value) → Except Mishap (List String)
  | [] => .ok []
  | (k, v) :: es => do
    return ((← k.tell.written) ++ ": " ++ (← v.tell.written)) :: (← tellEntries es)

/-- Fields with what can be said of them. -/
def tellFields : List (String × Value) → List (String × Told)
  | [] => []
  | (name, v) :: fs => (name, v.tell) :: tellFields fs

end

mutual

/-- Whether two values say the same. -/
def agrees : Value → Value → Bool
  | .atom a, .atom b => a.agrees b
  | .list vs, .list ws => allAgree vs ws
  | .map es, .map fs => es.length == fs.length && entriesAgree es fs
  | .card r, .card s => r == s
  | .record r kind fs, .record s other gs => r == s || (kind == other && fieldsAgree fs gs)
  | _, _ => false

/-- Whether values say the same one by one. -/
def allAgree : List Value → List Value → Bool
  | [], [] => true
  | v :: vs, w :: ws => v.agrees w && allAgree vs ws
  | _, _ => false

/-- Whether every key of a map has a value in another that says the same. -/
def entriesAgree : List (Atom × Value) → List (Atom × Value) → Bool
  | [], _ => true
  | (k, v) :: es, fs =>
    (match Entries.find? fs k with
      | some w => v.agrees w
      | none => false) && entriesAgree es fs

/-- Whether fields say the same one by one. -/
def fieldsAgree : List (String × Value) → List (String × Value) → Bool
  | [], [] => true
  | (_, v) :: fs, (_, w) :: gs => v.agrees w && fieldsAgree fs gs
  | _, _ => false

end

end Value

end Shopfloor
