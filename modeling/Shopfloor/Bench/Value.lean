import Shopfloor.Bench.Moment
import Shopfloor.Choice
import Shopfloor.Number.Amount
/-!
# Loose Values

What a field of a record may hold when nobody watches over it.

A record that is made is checked, but its fields can be written later with
anything: a number where a text was, a text that names no choice, another
record. So a field holds a value of any sort. A single value is an atom; lists
and maps are made of values, and a map finds its values by atoms. A record
lies in a row of its own and is meant by its place there, so whoever holds it
sees it change.

Values are compared by what they say. Numbers agree when they are equal in
value, of whatever sort they are, and truth counts as one. A choice that was
left open agrees with its text, though in words it goes by its full name.

Each value has words and a written form. The words of a text are the text
itself; its written form stands in quotes, which is how it appears inside
lists and maps.

## Main definitions

* `Atom`: A single value.
* `Value`: A value of any sort.
* `Atom.agrees`: Whether two single values say the same.
* `Entries.find?`, `Entries.insert`, `Entries.erase`: Maps from atoms.
* `Atom.words`, `Atom.written`: A single value in words and as it is written.
* `Value.isFilled`, `Value.size?`: Whether a value is more than nothing, and how large it is.
-/

namespace Shopfloor

/-- A place in the row of records. -/
abbrev Ref := Nat

/-- The sorts of record. -/
inductive RecordKind
  | store
  | aisle
  | shelf
  | product
  | inventory
  | customer
  | basket
  | device
  | account
  | aisleSpot
  | shelfSpot
deriving DecidableEq, Repr

/-- The name of a sort of record. -/
def RecordKind.name : RecordKind → String
  | .store => "Store"
  | .aisle => "Aisle"
  | .shelf => "Shelf"
  | .product => "Product"
  | .inventory => "Inventory"
  | .customer => "Customer"
  | .basket => "Basket"
  | .device => "Device"
  | .account => "User"
  | .aisleSpot => "StoreLocation"
  | .shelfSpot => "InventoryLocation"

/-- A single value. -/
inductive Atom
  | null
  | bool (b : Bool)
  | integer (n : Int)
  | number (x : Binary64)
  | text (s : String)
  /-- A choice that was left open: the text of the standard one, and its full name. -/
  | standard (text fullName : String)
  | moment (m : Moment)
deriving DecidableEq, Repr

/-- A value of any sort. -/
inductive Value
  | atom (a : Atom)
  | list (items : List Value)
  | map (entries : List (Atom × Value))
  /-- A record that lies in the row, by its place. -/
  | card (place : Ref)
  /-- A record spread out, all that it holds included. -/
  | record (place : Ref) (kind : RecordKind) (fields : List (String × Value))
deriving Repr, Inhabited

namespace Atom

/-- The choice that stands where none was given. -/
def ofStandard {α : Type} [Choice α] (a : α) : Atom := .standard (Choice.text a) (Choice.fullName a)

/-- The amount that an atom is; truth counts as one. -/
def amount? : Atom → Option Amount
  | .bool b => some (.whole b.toNat)
  | .integer n => some (.whole n)
  | .number x => some (.binary x)
  | _ => none

/-- The text that an atom is. -/
def text? : Atom → Option String
  | .text s | .standard s _ => some s
  | _ => none

/-- Whether two atoms say the same. -/
def agrees (a b : Atom) : Bool :=
  match a.amount?, b.amount?, a.text?, b.text? with
  | some x, some y, _, _ => x.sameValue y
  | _, _, some s, some t => s == t
  | none, none, none, none => a == b
  | _, _, _, _ => false

/-- Whether an atom comes before another. -/
def before? (a b : Atom) : Option Bool :=
  match a.amount?, b.amount?, a.text?, b.text? with
  | some x, some y, _, _ => some (x.less y)
  | _, _, some s, some t => some (decide (s < t))
  | _, _, _, _ => none

/-- Whether an atom is more than nothing. -/
def isFilled : Atom → Bool
  | .null => false
  | .bool b => b
  | .integer n => n != 0
  | .number x => !(Amount.binary x).isZero
  | .text s | .standard s _ => !s.isEmpty
  | .moment _ => true

/-- A whole number in digits, unless it has too many. -/
def digits (n : Int) : Except ValueFlaw String :=
  if Number.writable n then .ok (toString n) else .error .longNumber

/-- An atom in words. A moment has none. -/
def words : Atom → Except ValueFlaw String
  | .null => .ok (shown none)
  | .bool b => .ok (if b then "True" else "False")
  | .integer n => digits n
  | .number x => .ok (Number.writeShortest x)
  | .text s => .ok s
  | .standard _ fullName => .ok fullName
  | .moment _ => .ok ""

/-- An atom as it is written inside lists and maps. -/
def written : Atom → Except ValueFlaw String
  | .text s => .ok (Text.quote s)
  | .standard s fullName => .ok (s!"<{fullName}: " ++ Text.quote s ++ ">")
  | a => a.words

end Atom

/-- A map from atoms, in order of arrival. -/
abbrev Entries (α : Type) := List (Atom × α)

namespace Entries

variable {α : Type}

/-- The value under a key. -/
def find? (m : Entries α) (k : Atom) : Option α := (List.find? (k.agrees ·.1) m).map (·.2)

/-- Writes a value under a key: in its place if there is such a key, else at the end. -/
def insert (m : Entries α) (k : Atom) (v : α) : Entries α :=
  if (m.find? k).isSome then m.map fun e => if k.agrees e.1 then (e.1, v) else e
  else m ++ [(k, v)]

/-- Removes a key. -/
def erase (m : Entries α) (k : Atom) : Entries α := m.filter fun e => !k.agrees e.1

/-- The entries in the order of their keys, if any two of the keys can be put in order. -/
def sorted? (m : Entries α) : Option (Entries α) :=
  if m.all fun e => m.all fun f => (e.1.before? f.1).isSome || m.length < 2 then
    some (m.mergeSort fun e f => !(f.1.before? e.1).getD false)
  else none

end Entries

namespace Value

/-- Nothing. -/
def null : Value := .atom .null

/-- A text as a value. -/
def text (s : String) : Value := .atom (.text s)

/-- An amount as a value. -/
def ofAmount : Amount → Value
  | .whole n => .atom (.integer n)
  | .binary x => .atom (.number x)

/-- Whether a value is nothing. -/
def isNull : Value → Bool
  | .atom .null => true
  | _ => false

/-- The single value that a value is. -/
def atom? : Value → Option Atom
  | .atom a => some a
  | _ => none

/-- The amount that a value is. -/
def amount? (v : Value) : Option Amount := v.atom?.bind Atom.amount?

/-- The map that a value is. -/
def entries? : Value → Option (Entries Value)
  | .map m => some m
  | _ => none

/-- Whether a value is more than nothing. -/
def isFilled : Value → Bool
  | .atom a => a.isFilled
  | .list items => !items.isEmpty
  | .map entries => !entries.isEmpty
  | .card _ | .record .. => true

/-- How many things a value holds; of a text, how many characters. -/
def size? : Value → Option Nat
  | .atom a => a.text?.map String.length
  | .list items => some items.length
  | .map entries => some entries.length
  | .card _ | .record .. => none

end Value

end Shopfloor
