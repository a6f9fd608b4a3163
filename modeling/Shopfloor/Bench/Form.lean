import Shopfloor.Bench.Value
/-!
# Forms of Records

What the fields of a record have to be when it is made.

A form says what a value may be. The form of a record names its fields in
order and gives each a form, and to a field that may be left out the value
that then stands there. Forms hold one another: an aisle has a map of shelves,
and a store has maps of most of the rest.

What becomes of the values that are given is up to a `Validator`. The one that is
given here takes values generously where nothing is lost. A whole number may come
as a text, as truth or falsehood, or as a binary number without a broken part; a
record may come as a map of its fields, more fields than it has included. Texts
are not: nothing is trimmed, and a choice has to be given by its exact text.
Amounts may not be below zero, but nothing ties one field to another, so an
inventory may be made that holds more than it has room for, and a basket with
lines that no shopping leads to.

Either the whole value is taken, or everything that is wrong with it is named,
each flaw with the way that leads to it, in the order in which the fields are
declared.

## Main definitions

* `Form`, `Fields`: What a value may be, and what the fields of a record may be.
* `RecordKind.fields`: The fields of each sort of record.
* `Checked`: A value, or what is wrong with it.
* `Validator`: How the fields of a record are taken.
* `Form.check`, `Fields.check`: Takes a value; records it holds are laid in the row.
-/

namespace Shopfloor

mutual

/-- What a value may be. -/
inductive Form
  | text
  | choice (texts : List String)
  /-- A whole number that is not below zero. -/
  | amount
  /-- Any whole number. -/
  | quantity
  /-- A number that is not below zero. -/
  | price
  | moment
  | record (kind : RecordKind) (fields : Fields)
  /-- A map whose values have a form. -/
  | mapOf (form : Form)
  | orNull (form : Form)

/-- The fields of a record, in order. -/
inductive Fields
  | done
  | required (name : String) (form : Form) (rest : Fields)
  | optional (name : String) (standard : Value) (form : Form) (rest : Fields)

end

/-- The names of fields. -/
def Fields.names : Fields → List String
  | .done => []
  | .required name _ rest | .optional name _ _ rest => name :: rest.names

namespace Form

/-- The texts of a choice. -/
def ofChoice (α : Type) [Choice α] : Form := .choice ((Choice.members (α := α)).map Choice.text)

end Form

/-- Fields for a choice that may be left open. -/
def Fields.choosing {α : Type} [Choice α] (name : String) (standard : α) (rest : Fields) : Fields :=
  .optional name (.atom (.ofStandard standard)) (.ofChoice α) rest

/-- Fields for a value that may be missing. -/
def Fields.maybe (name : String) (form : Form) (rest : Fields) : Fields :=
  .optional name .null (.orNull form) rest

/-- Fields for a text that is empty if it is left out. -/
def Fields.note (name : String) (rest : Fields) : Fields :=
  .optional name (.text "") .text rest

/-- Fields for a map that is empty if it is left out. -/
def Fields.several (name : String) (form : Form) (rest : Fields) : Fields :=
  .optional name (.map []) (.mapOf form) rest

/-- The fields of an aisle of a store. -/
def aisleSpotFields : Fields :=
  .required "store_id" .text <| .required "aisle_number" .text .done

/-- The fields of a shelf in an aisle of a store. -/
def shelfSpotFields : Fields :=
  .required "store_id" .text <| .required "aisle_number" .text <| .required "shelf_id" .text .done

/-- The fields of a shelf. -/
def shelfFields : Fields :=
  .required "id" .text <| .required "name" .text <| .required "level" (.ofChoice ShelfLevel) <|
  .note "description" <| .choosing "temperature" Temperature.ambient .done

/-- The fields of an aisle. -/
def aisleFields : Fields :=
  .required "number" .text <| .required "name" .text <| .note "description" <|
  .maybe "location" (.ofChoice AisleLocation) <|
  .several "shelves" (.record .shelf shelfFields) .done

/-- The fields of a product. -/
def productFields : Fields :=
  .required "id" .text <| .required "name" .text <| .note "description" <| .note "size" <|
  .note "category" <| .required "price" .price <| .choosing "temperature" Temperature.ambient .done

/-- The fields of an inventory. -/
def inventoryFields : Fields :=
  .required "id" .text <| .required "location" (.record .shelfSpot shelfSpotFields) <|
  .required "capacity" .amount <| .required "count" .amount <| .required "product_id" .text <|
  .choosing "type" InventoryType.standard .done

/-- The fields of a customer. -/
def customerFields : Fields :=
  .required "id" .text <| .required "first_name" .text <| .required "last_name" .text <|
  .required "type" (.ofChoice CustomerType) <| .required "email" .text <|
  .required "account" .text <| .maybe "age_group" (.ofChoice AgeGroup) <|
  .maybe "store_location" (.record .aisleSpot aisleSpotFields) <| .maybe "last_seen" .moment <|
  .maybe "basket_id" .text .done

/-- The fields of a basket. -/
def basketFields : Fields :=
  .required "id" .text <| .maybe "customer_id" .text <| .maybe "store_id" .text <|
  .several "products" .quantity .done

/-- The fields of a device. -/
def deviceFields : Fields :=
  .required "id" .text <| .required "name" .text <| .required "type" .text <|
  .required "kind" (.ofChoice DeviceKind) <|
  .required "store_location" (.record .aisleSpot aisleSpotFields) .done

/-- The fields of an account. -/
def accountFields : Fields :=
  .required "email" .text <| .required "password" .text <| .required "name" .text .done

/-- The fields of a store. -/
def storeFields : Fields :=
  .required "id" .text <| .required "address" .text <| .note "description" <|
  .several "aisles" (.record .aisle aisleFields) <|
  .several "inventory" (.record .inventory inventoryFields) <|
  .several "customers" (.record .customer customerFields) <|
  .several "baskets" (.record .basket basketFields) <|
  .several "devices" (.record .device deviceFields) .done

/-- The fields of each sort of record. -/
def RecordKind.fields : RecordKind → Fields
  | .store => storeFields
  | .aisle => aisleFields
  | .shelf => shelfFields
  | .product => productFields
  | .inventory => inventoryFields
  | .customer => customerFields
  | .basket => basketFields
  | .device => deviceFields
  | .account => accountFields
  | .aisleSpot => aisleSpotFields
  | .shelfSpot => shelfSpotFields

/-- A value, or what is wrong with it: each flaw, and the way that leads to it. -/
structure Checked (α : Type) where
  value : Option α
  flaws : List (List String × FieldFlaw)

namespace Checked

variable {α β γ : Type}

/-- Nothing is wrong. -/
def good (a : α) : Checked α := ⟨some a, []⟩

/-- A value is wrong as a whole. -/
def bad (flaw : FieldFlaw) : Checked α := ⟨none, [([], flaw)]⟩

/-- What was found of a value that is part of another. -/
def map (f : α → β) (c : Checked α) : Checked β := ⟨c.value.map f, c.flaws⟩

/-- What was found under a name. -/
def under (name : String) (c : Checked α) : Checked α :=
  { c with flaws := c.flaws.map fun f => (name :: f.1, f.2) }

/-- What was found of two values, first of the one and then of the other. -/
def both (f : α → β → γ) (x : Checked α) (y : Checked β) : Checked γ :=
  ⟨x.value.bind fun a => y.value.map (f a), x.flaws ++ y.flaws⟩

/-- What was found of several values, one after the other. -/
def all (cs : List (Checked α)) : Checked (List α) := cs.foldr (both List.cons) (good [])

end Checked

/-- A record in the row: its sort and its fields. -/
structure Card where
  kind : RecordKind
  fields : List (String × Value)
deriving Repr

/-- Work on the row of records. -/
abbrev OnRow := StateM (List Card)

/-- Lays a record at the end of the row. -/
def Card.lay (c : Card) : OnRow Ref := fun row => (row.length, row ++ [c])

/-- How the fields of a record are taken: what there is in each of them, or what is wrong with what
    was given. -/
abbrev Validator := Fields → Entries Value → OnRow (Checked (List (String × Value)))

/-- Takes a text. -/
def Atom.asText : Atom → Except FieldFlaw Atom
  | .text s => .ok (.text s)
  | _ => .error .notText

/-- Takes the exact text of a choice. -/
def Atom.asChoice (texts : List String) : Atom → Except FieldFlaw Atom
  | .text s => if texts.contains s then .ok (.text s) else .error .noChoice
  | _ => .error .noChoice

/-- Below this size a binary number is taken for the whole number that it is. -/
def wholeRange : Nat := twoTo 63

/-- Takes a whole number. -/
def Atom.asWhole : Atom → Except FieldFlaw Int
  | .bool b => .ok b.toNat
  | .integer n => .ok n
  | .number x =>
    if !x.isFinite then .error .notFinite
    else match x.whole? with
      | none => .error .brokenInteger
      | some n => if n.natAbs < wholeRange then .ok n else .error .longInteger
  | .text s =>
    match Number.readPlainInt s with
    | .ok n => .ok n
    | .error .malformed => .error .noInteger
    | .error (.tooLong _) => .error .longInteger
  | _ => .error .notInteger

/-- Takes a whole number that is not below zero. -/
def Atom.asAmount (a : Atom) : Except FieldFlaw Int := do
  let n ← a.asWhole
  if n < 0 then .error .belowZero else return n

/-- Takes a number. -/
def Atom.asNumber : Atom → Except FieldFlaw Binary64
  | .bool b => .ok (Binary64.ofInt b.toNat)
  | .integer n => .ok (Binary64.ofInt n)
  | .number x => .ok x
  | .text s => (Number.readPlainDecimal s).elim (.error .noNumber) .ok
  | _ => .error .notNumber

/-- Takes a number that is not below zero. -/
def Atom.asPrice (a : Atom) : Except FieldFlaw Binary64 := do
  let x ← a.asNumber
  if x.atLeastZero then return x else .error .belowZero

/-- Takes a moment. -/
def Atom.asMoment : Atom → Except FieldFlaw Moment
  | .integer n => .ok (.ofSeconds n)
  | .number x => x.whole?.elim (.error .noMoment) fun n => .ok (.ofSeconds n)
  | .text s => (Moment.ofText? s).elim (.error .noMoment) .ok
  | _ => .error .notMoment

/-- Takes a single value by a rule; any other value is as wrong as nothing is. -/
def Value.checkAtom {α : Type} (rule : Atom → Except FieldFlaw α) (f : α → Atom) (v : Value) :
    Checked Value :=
  match rule (v.atom?.getD .null) with
  | .ok a => .good (.atom (f a))
  | .error flaw => .bad flaw

/-- Takes the key of a map, which is a text. -/
def Atom.checkKey (a : Atom) : Checked Atom :=
  match a.asText with
  | .ok key => .good key
  | .error flaw => (Checked.bad flaw).under "[key]"

/-- The value of a field that was given under a name. -/
def givenField (given : Entries Value) (name : String) : Option Value :=
  Entries.find? given (.text name)

mutual

/-- Takes a value of a form. Records that are given as maps are laid in the row. -/
def Form.check : Form → Value → OnRow (Checked Value)
  | .text, v => return v.checkAtom Atom.asText id
  | .choice texts, v => return v.checkAtom (Atom.asChoice texts) id
  | .amount, v => return v.checkAtom Atom.asAmount .integer
  | .quantity, v => return v.checkAtom Atom.asWhole .integer
  | .price, v => return v.checkAtom Atom.asPrice .number
  | .moment, v => return v.checkAtom Atom.asMoment .moment
  | .record kind fields, v => do
    match v with
    | .card r =>
      return if (← get)[r]?.any (·.kind == kind) then .good v else .bad .notRecord
    | .map given =>
      let checked ← fields.check given
      match checked.value with
      | some fields => return .good (.card (← (Card.mk kind fields).lay))
      | none => return ⟨none, checked.flaws⟩
    | _ => return .bad .notRecord
  | .mapOf form, v => do
    match v with
    | .map entries =>
      let checked ← entries.mapM fun (key, value) => do
        let c ← form.check value
        return (key.checkKey.both Prod.mk c).under (key.text?.getD "")
      return (Checked.all checked).map .map
    | _ => return .bad .notMap
  | .orNull form, v => if v.isNull then return .good v else form.check v

/-- Takes the fields of a record by their names; others are passed over. -/
def Fields.check : Fields → Entries Value → OnRow (Checked (List (String × Value)))
  | .done, _ => return .good []
  | .required name form rest, given => do
    let c ← match givenField given name with
      | some v => form.check v
      | none => pure (.bad .missing)
    return (c.under name).both (fun v fields => (name, v) :: fields) (← rest.check given)
  | .optional name standard form rest, given => do
    let c ← match givenField given name with
      | some v => form.check v
      | none => pure (.good standard)
    return (c.under name).both (fun v fields => (name, v) :: fields) (← rest.check given)

end

end Shopfloor
