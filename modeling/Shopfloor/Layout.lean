import Shopfloor.Choice
import Shopfloor.Keyed
/-!
# Store Layout

Aisles and the shelves in them. An aisle finds its shelves by id and takes no
second shelf of the same id.

## Main definitions

* `Shelf`, `Aisle`: The records.
* `Aisle.addShelf`: Puts up a shelf.
* `Aisle.getShelf`: The shelf with an id.
* `Shelf.describe`, `Aisle.describe`: The records in words.
-/

namespace Shopfloor

/-- A shelf of an aisle. -/
structure Shelf where
  id : String
  name : String
  level : ShelfLevel
  description : String
  temperature : Temperature
deriving DecidableEq, Repr

/-- An aisle of a store, with its shelves in the order in which they were put up. -/
structure Aisle where
  number : String
  name : String
  description : String
  location : Option AisleLocation
  shelves : Keyed Shelf
deriving DecidableEq, Repr

/-- A second shelf under one id. -/
def Aisle.shelfPresent (aisle shelf : String) : Fault :=
  .failure "Add Shelf" (.present .shelf s!"{aisle}:{shelf}")

/-- No shelf under an id. -/
def Aisle.shelfAbsent (aisle : String) (shelf : Option String) : Fault :=
  .failure "Get Shelf" (.absent .shelf (s!"{aisle}:" ++ shown shelf))

/-- Puts up a shelf, unless its id is taken. -/
def Aisle.addShelf (a : Aisle) (s : Shelf) : Except Fault Aisle :=
  if a.shelves.contains s.id then .error (shelfPresent a.number s.id)
  else .ok { a with shelves := a.shelves.insert s.id s }

/-- The shelf with an id. -/
def Aisle.getShelf (a : Aisle) (id : Option String) : Except Fault Shelf :=
  match a.shelves.find? id with
  | some s => .ok s
  | none => .error (shelfAbsent a.number id)

/-- The words for a shelf, given those for its fields. -/
def Shelf.phrase (id name level temperature description : String) : String :=
  s!"Shelf {id} '{name}' level={level} temperature={temperature} - {description}"

/-- A shelf in words. -/
def Shelf.describe (s : Shelf) : String :=
  phrase s.id s.name (Choice.text s.level) (Choice.text s.temperature) s.description

/-- The words for an aisle of which nobody said where it lies. -/
def Aisle.nowhere : String := "unspecified"

/-- The words for an aisle, given those for its fields; the ids of shelves come in quotes. -/
def Aisle.phrase (number name location description : String) (shelves : List String) : String :=
  s!"Aisle {number} '{name}' location={location} shelves=" ++ Text.enlist shelves
    ++ s!" - {description}"

/-- An aisle in words. -/
def Aisle.describe (a : Aisle) : String :=
  phrase a.number a.name ((a.location.map Choice.text).getD nowhere) a.description
    (a.shelves.sortedKeys.map Text.quote)

end Shopfloor
