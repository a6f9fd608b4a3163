import Shopfloor.Bench.Telling
/-!
# The Bench

Records that are handled one by one, outside of any shop.

On the bench a record is a thing of its own: a store that is given an aisle
holds that very aisle, and a later change of the aisle shows in the store.
Records therefore lie in a row and are held by their places in it. To be seen,
a value is spread out: every place in it gives way to the record that lies
there, as long as no record holds itself.

Where things are is fixed once and for all; every other field of a record can
be written with anything, and what is written is not checked. A field that a record does
not have cannot be written, though nobody minds if its name begins with an
underscore.

## Main definitions

* `Bench`: The records in their row, the handles, and the clock.
* `Bench.held`: The record that a handle holds.
* `Bench.spread`: A value with its records spread out.
* `Bench.makeBy`, `Bench.make`: A record is made.
* `Bench.get`, `Bench.set`, `Bench.describe`, `Bench.equal`: What can be done with one.
-/

namespace Shopfloor

namespace Value

mutual

/-- A value with something else in place of each record it holds. -/
def replaceCards (f : Ref → Value) : Value → Value
  | .atom a => .atom a
  | .list items => .list (replaceAll f items)
  | .map entries => .map (replaceEntries f entries)
  | .card r => f r
  | .record r kind fields => .record r kind (replaceFields f fields)

/-- Values with something else in place of each record. -/
def replaceAll (f : Ref → Value) : List Value → List Value
  | [] => []
  | v :: vs => v.replaceCards f :: replaceAll f vs

/-- Entries with something else in place of each record. -/
def replaceEntries (f : Ref → Value) : List (Atom × Value) → List (Atom × Value)
  | [] => []
  | (k, v) :: es => (k, v.replaceCards f) :: replaceEntries f es

/-- Fields with something else in place of each record. -/
def replaceFields (f : Ref → Value) : List (String × Value) → List (String × Value)
  | [] => []
  | (name, v) :: fs => (name, v.replaceCards f) :: replaceFields f fs

end

end Value

namespace Card

/-- A field of a record. -/
def get? (c : Card) (name : String) : Option Value := c.fields.lookup name

/-- A record with a field written. -/
def put (c : Card) (name : String) (v : Value) : Card :=
  { c with fields := c.fields.map fun f => if f.1 == name then (name, v) else f }

/-- Whether the fields of a record are fixed. -/
def isFixed (c : Card) : Bool := c.kind == .aisleSpot || c.kind == .shelfSpot

end Card

/-- The records in their row, the handles by which they are held, and the clock. -/
structure Bench where
  row : List Card
  handles : Keyed Ref
  clock : Nat
deriving Repr

namespace Bench

/-- A bench with nothing on it. -/
def empty : Bench := ⟨[], .empty, 0⟩

/-- The place of the record that a handle holds. -/
def held (b : Bench) (handle : String) : Except Mishap Ref :=
  match b.handles.get? handle with
  | some r => .ok r
  | none => .error .noHandle

/-- The record at a place. -/
def at? (b : Bench) (r : Ref) : Except Mishap Card := Mishap.orSenseless b.row[r]?

/-- Puts a record in the place of another. -/
def put (b : Bench) (r : Ref) (c : Card) : Bench := { b with row := b.row.set r c }

/-- A value spread out, given how often a record may hold another. -/
def spreadWithin (b : Bench) : Nat → Value → Value
  | 0 => id
  | depth + 1 => Value.replaceCards fun r =>
    match b.row[r]? with
    | some c =>
      .record r c.kind (Value.replaceFields (fun s => b.spreadWithin depth (.card s)) c.fields)
    | none => .card r

/-- A value spread out. No record holds another through more of them than there are. -/
def spread (b : Bench) (v : Value) : Value := b.spreadWithin (b.row.length + 1) v

/-- A value of the bench in words. -/
def words (b : Bench) (v : Value) : Except Mishap String := (b.spread v).tell.words

/-- A field of the record that a value is. -/
def fieldOf (b : Bench) (v : Value) (name : String) : Except Mishap Value :=
  match v with
  | .card r => do Mishap.orSenseless ((← b.at? r).get? name)
  | _ => .error .senseless

/-- The refusal of a value for what is wrong with it. -/
def refusal {α : Type} (c : Checked α) : Mishap :=
  .refused (c.flaws.map fun f => (".".intercalate f.1, f.2))

/-- Makes a record of a sort from fields, as they are taken, and lays it under a handle: the record,
    and the bench afterwards. -/
def makeBy (validate : Validator) (b : Bench) (handle : String) (kind : RecordKind)
    (given : Entries Value) : Except Mishap (Value × Bench) :=
  let (checked, row) := (validate kind.fields given).run b.row
  match checked.value with
  | some fields =>
    let r := row.length
    let b := { b with row := row ++ [⟨kind, fields⟩], handles := b.handles.insert handle r }
    .ok (b.spread (.card r), b)
  | none => .error (refusal checked)

/-- Makes a record from fields that are taken by their forms. -/
def make : Bench → String → RecordKind → Entries Value → Except Mishap (Value × Bench) :=
  makeBy Fields.check

/-- The record that a handle holds, spread out. -/
def dump (b : Bench) (handle : String) : Except Mishap Value := do
  return b.spread (.card (← b.held handle))

/-- The record that a handle holds, in words. -/
def describe (b : Bench) (handle : String) : Except Mishap String := do
  b.words (.card (← b.held handle))

/-- The aisle in which the shelf is that a record names. -/
def inAisle (c : Card) : List (String × Value) :=
  c.fields.filter fun f => aisleSpotFields.names.contains f.1

/-- A field of the record that a handle holds. A shelf in an aisle also knows the aisle. -/
def get (b : Bench) (handle field : String) : Except Mishap Value := do
  let c ← b.at? (← b.held handle)
  if c.kind = .shelfSpot ∧ field = "store_location" then
    -- It is made anew for whoever asks, so it lies at no place of the row.
    return .record b.row.length .aisleSpot (inAisle c)
  return b.spread (← Mishap.orSenseless (c.get? field))

/-- Writes a field of the record that a handle holds. -/
def set (b : Bench) (handle field : String) (v : Value) : Except Mishap (Value × Bench) := do
  let r ← b.held handle
  let c ← b.at? r
  if c.isFixed then throw (.refused [(field, .frozen)])
  if (c.get? field).isNone ∧ field.toList.head? ≠ some '_' then
    throw (.badValue (.noField c.kind.name field))
  let b := b.put r (c.put field v)
  return (b.spread (.card r), b)

/-- Whether two handles hold records that say the same. -/
def equal (b : Bench) (one other : String) : Except Mishap Bool := do
  return (b.spread (.card (← b.held one))).agrees (b.spread (.card (← b.held other)))

end Bench

end Shopfloor
