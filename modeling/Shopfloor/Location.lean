/-!
# Locations

Where things are. A customer or a device is in an aisle of a store; stock is on
a shelf of an aisle. Locations are compared by value and written with colons.

## Main definitions

* `AisleSpot`: A store and an aisle in it.
* `ShelfSpot`: A store, an aisle in it and a shelf of the aisle.
-/

namespace Shopfloor

/-- An aisle of a store. -/
structure AisleSpot where
  store : String
  aisle : String
deriving DecidableEq, Repr

/-- A shelf in an aisle of a store. -/
structure ShelfSpot where
  store : String
  aisle : String
  shelf : String
deriving DecidableEq, Repr

/-- The words for an aisle of a store. -/
def AisleSpot.phrase (store aisle : String) : String := s!"{store}:{aisle}"

/-- The aisle of a store as it is written. -/
def AisleSpot.text (s : AisleSpot) : String := phrase s.store s.aisle

/-- The words for a shelf in an aisle of a store. -/
def ShelfSpot.phrase (store aisle shelf : String) : String := s!"{store}:{aisle}:{shelf}"

/-- The shelf as it is written. -/
def ShelfSpot.text (s : ShelfSpot) : String := phrase s.store s.aisle s.shelf

/-- The aisle in which a shelf stands. -/
def ShelfSpot.inAisle (s : ShelfSpot) : AisleSpot := ⟨s.store, s.aisle⟩

end Shopfloor
