import Shopfloor.Proofs.Recount
/-!
# What Is Always True

The invariants of the shop.

Nothing in the records makes them agree with each other. Where a customer is
stands with the customer and on the list of a store, a basket and its owner
name each other, and every operation writes these places one by one. What the
operations rely on is that the places agree whenever an operation begins. Four
facts say so, and they are kept apart because each of them has its own reason
to survive a step:

* `Filed`: records are under their ids, see `Shopfloor.Proofs.Filing`.
* `Stocked`: counts are between zero and capacity, and lines are positive.
* `Paired`: the owner of a basket is the one customer who holds it.
* `Placed`: lists say where people are, and a basket is where its owner is.

None of them is kept by itself. A basket that is taken by a customer can be
carried only because the customer stands in a store that is there, which is
`Placed`; units that come off a shelf leave no count below zero because what is
written back is what was found, which is `Filed`. `Sound` is all four together.

Who holds what and who is where is read through functions of ids, which are
nothing for an id that is not registered. So a registration and what it says
are one fact.

## Main definitions

* `Shop.basketOf`, `Shop.ownerOf`: Who holds what, from either side.
* `Shop.spotOf`, `Shop.storeOf`, `Shop.cartOf`: Where a customer or a basket is.
* `Keyed.Lists`: A list of a store has exactly certain ids on it.
* `Shop.Stocked`, `Shop.Paired`, `Shop.Placed`: Three of the invariants.
* `Shop.Sound`: All invariants.

## Theorems

* `sound_empty`: They hold of the empty shop.
* `Lists.passed`: The list of a store after somebody went from one to another.
-/

namespace Shopfloor

namespace Shop

/-- The basket that a customer holds. -/
def basketOf (shop : Shop) (c : String) : Option String :=
  (shop.customers.get? c).bind Customer.basket

/-- The customer who holds a basket. -/
def ownerOf (shop : Shop) (b : String) : Option String :=
  (shop.baskets.get? b).bind Basket.customer

/-- The aisle in which a customer stands. -/
def spotOf (shop : Shop) (c : String) : Option AisleSpot :=
  (shop.customers.get? c).bind Customer.spot

/-- The store in which a customer is. -/
def storeOf (shop : Shop) (c : String) : Option String := (shop.spotOf c).map AisleSpot.store

/-- The store in which a basket is. -/
def cartOf (shop : Shop) (b : String) : Option String := (shop.baskets.get? b).bind Basket.store

end Shop

namespace Keyed

/-- A list has exactly the ids on it that fulfil a condition, and no listing has lapsed. -/
structure Lists (m : Keyed Listing) (P : String → Prop) : Prop where
  current : m.All fun _ l => l = .current
  contains_iff : ∀ x, m.contains x = true ↔ P x

variable {m : Keyed Listing} {P Q : String → Prop}

theorem Lists.congr (h : m.Lists P) (hPQ : ∀ x, P x ↔ Q x) : m.Lists Q :=
  ⟨h.current, fun x => (h.contains_iff x).trans (hPQ x)⟩

theorem lists_empty (h : ∀ x, ¬ P x) : (Keyed.empty : Keyed Listing).Lists P := by
  refine ⟨All.empty _, fun x => ?_⟩
  have hfalse : (Keyed.empty : Keyed Listing).contains x = false := rfl
  rw [hfalse]
  exact ⟨fun hx => absurd hx (by simp only [Bool.false_eq_true, not_false_eq_true]),
    fun hx => absurd hx (h x)⟩

theorem Lists.enroll (h : m.Lists P) (id : String) : (m.enroll id).Lists fun x => x = id ∨ P x := by
  unfold Keyed.enroll
  by_cases hin : m.contains id = true
  · rw [if_pos hin]
    refine h.congr fun x => ⟨Or.inr, ?_⟩
    rintro (rfl | hx)
    · exact (h.contains_iff x).1 hin
    · exact hx
  · rw [if_neg hin]
    refine ⟨h.current.insert rfl, fun x => ?_⟩
    rw [contains_insert, h.contains_iff]

theorem Lists.strike (h : m.Lists P) (id : String) : (m.strike id).Lists fun x => x ≠ id ∧ P x := by
  unfold Keyed.strike
  cases hget : m.get? id with
  | none =>
      -- Nobody of this id is on the list.
      have hne : ¬ (none : Option Listing) = some .current := by
        simp only [reduceCtorEq, not_false_eq_true]
      rw [if_neg hne]
      refine h.congr fun x => ⟨fun hx => ⟨?_, hx⟩, And.right⟩
      rintro rfl
      rw [← h.contains_iff, Keyed.contains_iff] at hx
      rcases hx with ⟨l, hl⟩
      rw [hget] at hl
      cases hl
  | some l =>
      rw [h.current id l hget, if_pos rfl]
      refine ⟨h.current.erase id, fun x => ?_⟩
      unfold contains
      rw [get?_erase]
      by_cases hx : x = id
      · rw [if_pos hx]
        exact ⟨fun hn => absurd hn (by simp), fun hn => absurd hx hn.1⟩
      · rw [if_neg hx]
        exact ⟨fun hn => ⟨hx, (h.contains_iff x).1 hn⟩, fun hn => (h.contains_iff x).2 hn.2⟩

/-- The list of a store after somebody went from where they were to another store. Everybody else
    is where they were. -/
theorem Lists.passed {at₀ at₁ : String → Option String} {here : String}
    (h : m.Lists fun x => at₀ x = some here) {id store : String}
    (hid : at₁ id = some store) (hother : ∀ x, x ≠ id → at₁ x = at₀ x) :
    (m.passed id here (at₀ id) store).Lists fun x => at₁ x = some here := by
  unfold Keyed.passed
  -- The list of the store that is entered, of the one that is left, and all other lists.
  by_cases harrive : here = store
  · rw [if_pos harrive]
    refine (h.enroll id).congr fun x => ?_
    by_cases hx : x = id
    · rw [hx, hid, harrive]
      exact ⟨fun _ => rfl, fun _ => Or.inl rfl⟩
    · rw [hother x hx]
      exact ⟨fun hor => hor.resolve_left hx, Or.inr⟩
  · rw [if_neg harrive]
    by_cases hleave : at₀ id = some here
    · rw [if_pos hleave]
      refine (h.strike id).congr fun x => ?_
      by_cases hx : x = id
      · rw [hx, hid, Option.some.injEq]
        exact ⟨fun hn => absurd rfl hn.1, fun he => absurd he.symm harrive⟩
      · rw [hother x hx]
        exact ⟨And.right, fun hx' => ⟨hx, hx'⟩⟩
    · rw [if_neg hleave]
      refine h.congr fun x => ?_
      by_cases hx : x = id
      · rw [hx, hid, Option.some.injEq]
        exact ⟨fun he => absurd he hleave, fun he => absurd he.symm harrive⟩
      · rw [hother x hx]

end Keyed

namespace Shop

/-- Counts are between zero and capacity, lines of baskets are positive, and both are of products
    of the catalogue. -/
structure Stocked (shop : Shop) : Prop where
  counts : shop.stores.All fun _ s => s.inventory.All fun _ i =>
    0 ≤ i.count ∧ i.count ≤ i.capacity ∧ shop.products.contains i.product = true
  lines : shop.baskets.All fun _ b => b.lines.All fun p q =>
    1 ≤ q ∧ shop.products.contains p = true

/-- A customer holds a basket exactly if the customer is the owner of the basket. -/
def Paired (shop : Shop) : Prop := ∀ c b, shop.basketOf c = some b ↔ shop.ownerOf b = some c

/-- Lists say where customers and baskets are, customers stand in aisles that are there, and a
    basket is where its owner is. -/
structure Placed (shop : Shop) : Prop where
  customers : shop.stores.All fun k s => s.customers.Lists fun c => shop.storeOf c = some k
  baskets : shop.stores.All fun k s => s.baskets.Lists fun b => shop.cartOf b = some k
  standing : ∀ c spot, shop.spotOf c = some spot →
    ∃ s, shop.stores.get? spot.store = some s ∧ s.HasAisle spot.aisle
  together : ∀ b, shop.cartOf b = (shop.ownerOf b).bind shop.storeOf

/-- What is true of the shop whenever an operation begins. -/
structure Sound (shop : Shop) : Prop where
  filed : shop.Filed
  stocked : shop.Stocked
  paired : shop.Paired
  placed : shop.Placed

theorem sound_empty : empty.Sound := by
  have hnone : ∀ c spot, ¬ empty.spotOf c = some spot := fun c spot => by
    have hspot : empty.spotOf c = none := rfl
    rw [hspot]
    simp only [reduceCtorEq, not_false_eq_true]
  refine ⟨filed_empty, ⟨Keyed.All.empty _, Keyed.All.empty _⟩, fun c b => ?_, ?_⟩
  · have hc : empty.basketOf c = none := rfl
    have hb : empty.ownerOf b = none := rfl
    rw [hc, hb]
    simp only [reduceCtorEq]
  · exact ⟨Keyed.All.empty _, Keyed.All.empty _, fun c spot h => absurd h (hnone c spot),
      fun b => rfl⟩

end Shop

end Shopfloor
