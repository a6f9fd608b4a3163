import Shopfloor.Proofs.Reference
import Shopfloor.Proofs.Script.Naming
/-!
# Locations Are Read Back

The location that is shown for a customer, for a device or for an inventory can
be given in a line, and then it is understood as the location it is.

Showing joins ids by colons and asks nothing of them, so two locations could
look the same if an id had a colon in it. In a shop that lines have led to none
has: a customer stands in an aisle, a device hangs in one, and an inventory is
on a shelf, and aisles and shelves are registered under compound ids. This is
where the store in a location gets its part from, although it was registered
under an id of which nothing was asked.

## Main definitions

* `Script.Located`: The ids of a location that some record has, and how it is shown.

## Theorems

* `Script.Located.composed`: What is shown is made of the ids.
* `Script.locations_read_back`: What is shown is read back, and tells locations apart.
-/

namespace Shopfloor

namespace Script

open Argument (IsPart)

variable {shop : Shop} {ids : List String} {text : String}

/-- The ids of a location that a customer, a device or an inventory has, and how it is shown. -/
inductive Located (shop : Shop) : List String → String → Prop
  | customer {i : String} {c : Customer} {spot : AisleSpot} (hc : shop.customers.get? i = some c)
    (hspot : c.spot = some spot) : Located shop [spot.store, spot.aisle] spot.text
  | device {k i : String} {s : Store} {d : Device} (hs : shop.stores.get? k = some s)
    (hd : s.devices.get? i = some d) : Located shop [d.spot.store, d.spot.aisle] d.spot.text
  | inventory {k i : String} {s : Store} {j : Inventory} (hs : shop.stores.get? k = some s)
    (hj : s.inventory.get? i = some j) :
    Located shop [j.spot.store, j.spot.aisle, j.spot.shelf] j.spot.text

/-- An aisle is registered under parts of a compound id. -/
theorem Scripted.parts_of_aisle (h : Scripted shop) {k n : String} {s : Store}
    (hs : shop.stores.get? k = some s) (hn : s.HasAisle n) : IsPart k ∧ IsPart n := by
  rcases hn with ⟨a, ha⟩
  exact h.spoken (Shop.provisioned?_aisle hs ha)

/-- A shelf is registered under parts of a compound id. -/
theorem Scripted.parts_of_shelf (h : Scripted shop) {k n i : String} {s : Store}
    (hs : shop.stores.get? k = some s) (hi : s.HasShelf n i) :
    IsPart k ∧ IsPart n ∧ IsPart i := by
  rcases hi with ⟨a, b, ha, hb⟩
  exact h.spoken (Shop.provisioned?_shelf hs ha hb)

/-- What is shown of a location is made of its ids. -/
theorem Located.composed (h : Located shop ids text) (hshop : Scripted shop) :
    Composed ids text := by
  have hsound := hshop.reachable.sound
  cases h with
  | @customer i c spot hc hspot =>
      have hstands := (Shop.spotOf_of_get? hc).trans hspot
      rcases hsound.placed.standing i spot hstands with ⟨s, hs, haisle⟩
      exact composed_aisle (hshop.parts_of_aisle hs haisle)
  | @device k i s d hs hd =>
      rcases (hsound.coherent k s hs).devices i d hd with ⟨-, rfl, haisle⟩
      exact composed_aisle (hshop.parts_of_aisle hs haisle)
  | @inventory k i s j hs hj =>
      rcases (hsound.coherent k s hs).inventory i j hj with ⟨-, rfl, hshelf, -⟩
      exact composed_shelf (hshop.parts_of_shelf hs hshelf)

/-- A compound id is taken apart exactly if it is made of as many parts as there should be, and then
    into these parts, which give it back when they are joined. In a shop that lines have led to, the
    location of every customer, device and inventory is taken apart into its ids as it is shown, and
    so locations that are shown alike are the same. -/
theorem locations_read_back (h : Scripted shop) :
    (∀ value parts line pieces, splitLocation value parts line = .ok pieces ↔
      Composed pieces value ∧ (pieces.length : Int) = parts) ∧
    (∀ ids text, Located shop ids text → ∀ line,
      splitLocation text ids.length line = .ok ids) ∧
    ∀ ids ids' text, Located shop ids text → Located shop ids' text → ids = ids' := by
  refine ⟨fun _ _ _ _ => splitLocation_eq_ok_iff, fun ids text hlocated line => ?_,
    fun ids ids' text hids hids' => ?_⟩
  · exact splitLocation_eq_ok_iff.2 ⟨hlocated.composed h, rfl⟩
  · rw [← (hids.composed h).split, ← (hids'.composed h).split]

/-- The locations of a customer and of an inventory, as they are shown and as they are read back. -/
theorem locations_after_hoard :
    splitLocation "s:1" 2 "" = .ok ["s", "1"] ∧
      splitLocation "s:1:a" 3 "" = .ok ["s", "1", "a"] := by
  have h := locations_read_back scripted_hoarded
  have hcustomer : (hoarded.customers.get? "c").bind Customer.spot = some ⟨"s", "1"⟩ := by
    decide +kernel
  have hshelf : ((hoarded.stores.get? "s").bind fun s => s.inventory.get? "i").map Inventory.spot =
      some ⟨"s", "1", "a"⟩ := by decide +kernel
  rcases Option.bind_eq_some_iff.1 hcustomer with ⟨c, hc, hspot⟩
  rcases Option.map_eq_some_iff.1 hshelf with ⟨j, hj, hjspot⟩
  rcases Option.bind_eq_some_iff.1 hj with ⟨s, hs, hj⟩
  have hinventory := Located.inventory hs hj
  rw [hjspot] at hinventory
  exact ⟨h.2.1 _ _ (.customer hc hspot) "", h.2.1 _ _ hinventory ""⟩

end Script

end Shopfloor
