import Shopfloor.Proofs.Invariant.Filed
/-!
# Steps Keep Stock in Range

Counts stay between zero and capacity, lines of baskets stay positive, and
neither is ever of a product that is not in the catalogue.

Counts change by `recount` alone, so all that has to be seen of an operation is
which counts it writes. A change that is refused as a whole writes a count in
range; putting back as much as there is room for does too, because what is put
back is not negative and room is what is left up to capacity. Products are
never taken out of the catalogue.

## Theorems

* `quantity_nonneg`: No quantity in a basket is negative.
* `refilled_range`: A count after units were put back.
* `Stocked.recount`, `Stocked.putBasket`: New counts in range, and new positive lines.
* `Stocked.rewriteStore` to `Stocked.emptied`: What each change of the shop keeps.
* `Step.stocked`: Every step keeps stock in range.
-/

namespace Shopfloor

theorem Basket.quantity_nonneg {b : Basket} {P : String → Prop}
    (h : b.lines.All fun p q => 1 ≤ q ∧ P p) (p : String) : 0 ≤ b.quantity p := by
  unfold Basket.quantity
  cases hq : b.lines.get? p with
  | none => exact Int.le_refl 0
  | some q =>
      have hpos := (h p q hq).1
      rw [Option.getD_some]
      omega

namespace Shop

variable {shop shop' : Shop}

/-- What is known of an inventory that is kept. -/
theorem Stocked.of_keeps (h : shop.Stocked) {i : Inventory} (hi : shop.Keeps i) :
    0 ≤ i.count ∧ i.count ≤ i.capacity ∧ shop.products.contains i.product = true := by
  rcases hi with ⟨s, hs, hget⟩
  exact h.counts _ s hs _ i hget

/-- Counts in range may be written. -/
theorem Stocked.recount (h : shop.Stocked) (hf : Filing shop.stores) {n : Inventory → Int}
    (hn : ∀ i, shop.Keeps i → 0 ≤ n i ∧ n i ≤ i.capacity) : (shop.recount n).Stocked := by
  refine ⟨fun x s' hs' k i' hi' => ?_, h.lines⟩
  rw [recount_eq, Keyed.get?_mapValues, Option.map_eq_some_iff] at hs'
  rcases hs' with ⟨s, hs, rfl⟩
  unfold Store.counted at hi'
  rw [Keyed.get?_mapValues, Option.map_eq_some_iff] at hi'
  rcases hi' with ⟨i, hi, rfl⟩
  have hrange := hn i (keeps_of_get? hf hs hi).1
  exact ⟨hrange.1, hrange.2, (h.counts x s hs k i hi).2.2⟩

/-- A count in range may be written, whatever the others are. -/
theorem Stocked.recount_one (h : shop.Stocked) (hf : Filing shop.stores) {i : Inventory} {c : Int}
    (hlow : 0 ≤ c) (hhigh : c ≤ i.capacity) :
    (shop.recount fun j => if j = i then c else j.count).Stocked := by
  refine h.recount hf fun j hj => ?_
  by_cases hji : j = i
  · rw [if_pos hji, hji]
    exact ⟨hlow, hhigh⟩
  · rw [if_neg hji]
    have hrange := h.of_keeps hj
    exact ⟨hrange.1, hrange.2.1⟩

/-- Positive lines of products of the catalogue may be written. -/
theorem Stocked.putBasket (h : shop.Stocked) {b : Basket}
    (hb : b.lines.All fun p q => 1 ≤ q ∧ shop.products.contains p = true) :
    (shop.putBasket b).Stocked := by
  refine ⟨h.counts, h.lines.mapValues fun k v hv => ?_⟩
  by_cases hk : k = b.id
  · rw [if_pos hk]
    exact hb
  · rw [if_neg hk]
    exact hv

/-- A store whose stock is in range may be written. -/
theorem Stocked.putStore (h : shop.Stocked) {s : Store}
    (hs : s.inventory.All fun _ i =>
      0 ≤ i.count ∧ i.count ≤ i.capacity ∧ shop.products.contains i.product = true) :
    (shop.putStore s).Stocked :=
  ⟨h.counts.insert hs, h.lines⟩

/-- A count stays in range when units are put back as far as there is room. -/
theorem refilled_range {spot : Option AisleSpot} {units : String → Int} {i : Inventory}
    (hunits : 0 ≤ units i.product) (hlow : 0 ≤ i.count) (hhigh : i.count ≤ i.capacity) :
    0 ≤ shop.refilled spot units i ∧ shop.refilled spot units i ≤ i.capacity := by
  unfold refilled Inventory.room
  split <;> omega

/-! ### What each change does -/

/-- A store is written over another that has the same inventories. -/
theorem Stocked.rewriteStore (h : shop.Stocked) {k : String} {s s' : Store}
    (hs : shop.stores.get? k = some s) (hinventory : s'.inventory = s.inventory) :
    (shop.putStore s').Stocked := by
  refine h.putStore ?_
  rw [hinventory]
  exact h.counts _ s hs

theorem Stocked.closeStore (h : shop.Stocked) (s : Store) : (shop.without s).Stocked := by
  refine ⟨h.counts.erase _, h.lines.mapValues fun k b hb => ?_⟩
  split <;> exact hb

/-- The catalogue grows, so what was in it still is. -/
theorem Stocked.addProduct (h : shop.Stocked) (x : String) (p : Product) :
    ({ shop with products := shop.products.insert x p } : Shop).Stocked := by
  have hgrows : ∀ q, shop.products.contains q = true →
      (shop.products.insert x p).contains q = true := fun q hq =>
    (Keyed.contains_insert _ _ _ _).2 (Or.inr hq)
  constructor
  · refine h.counts.mono fun _ _ hs => hs.mono fun _ i hi => ?_
    exact ⟨hi.1, hi.2.1, hgrows i.product hi.2.2⟩
  · exact h.lines.mono fun _ _ hb => hb.mono fun q _ hq => ⟨hq.1, hgrows q hq.2⟩

theorem Sound.stocked_afterMove (h : shop.Sound) {c : Customer} {spot : AisleSpot} {s : Store}
    (hs : shop.stores.get? spot.store = some s) : (shop.afterMove c spot).Stocked := by
  rw [afterMove_eq h.filed.baskets hs]
  refine ⟨h.stocked.counts.mapValues fun _ _ h => h, h.stocked.lines.mapValues fun k b hb => ?_⟩
  split <;> exact hb

theorem Sound.stocked_afterAssign (h : shop.Sound) {k : String} {c : Customer} {b : Basket}
    (hc : shop.customers.get? k = some c) (hb : shop.baskets.get? b.id = some b) :
    (shop.afterAssign c b).Stocked := by
  rw [afterAssign_eq hb (h.placed.spot_store hc)]
  exact ⟨h.stocked.counts.mapValues fun _ _ h => h, h.stocked.lines.adjust fun _ h => h⟩

/-- Units go between an inventory and a basket: the new count is in range, and so are the lines. -/
theorem Sound.stocked_traded (h : shop.Sound) {i : Inventory} (hi : shop.Keeps i) {n : Int}
    (hlow : 0 ≤ n) (hhigh : n ≤ i.capacity) {b : Basket}
    (hb : b.lines.All fun p q => 1 ≤ q ∧ shop.products.contains p = true) :
    ((shop.putInventory { i with count := n }).putBasket b).Stocked := by
  rw [h.putInventory_eq_recount hi]
  exact (h.stocked.recount_one h.filed.floor hlow hhigh).putBasket hb

theorem Stocked.emptied (h : shop.Stocked) (hf : Filing shop.stores) {k : String} {b : Basket}
    (hb : shop.baskets.get? k = some b) : (shop.emptied b).Stocked := by
  refine Stocked.putBasket (h.recount hf fun i hi => ?_) (Keyed.All.empty _)
  have hrange := h.of_keeps hi
  exact refilled_range (Basket.quantity_nonneg (h.lines _ b hb) _) hrange.1 hrange.2.1

/-- Every step keeps stock in range. -/
theorem Step.stocked {op : Operation} {r : Reply} (h : Step shop op r shop')
    (hsound : shop.Sound) : shop'.Stocked := by
  have hst := hsound.stocked
  have hf := hsound.filed.floor
  cases h with
  | query _ => exact hst
  | openStore _ => exact hst.putStore (Keyed.All.empty _)
  | updateStore _ _ hs hs' =>
      subst hs'
      exact hst.rewriteStore hs rfl
  | closeStore _ => exact hst.closeStore _
  | openAisle _ _ hs _ _ _ => exact hst.rewriteStore hs rfl
  | putUpShelf _ _ _ hs _ _ _ _ _ => exact hst.rewriteStore hs rfl
  | addProduct _ _ _ _ _ _ _ _ _ => exact hst.addProduct _ _
  | @addInventory _ _ _ _ p _ _ _ _ _ item _ _ _ hs _ _ h0 hm hp _ _ _ hj =>
      subst hj
      have hitem : item.id = p := hsound.filed.products p item hp
      refine hst.putStore ((hst.counts _ _ hs).insert ⟨h0, hm, ?_⟩)
      rw [hitem]
      exact (Keyed.contains_iff _ _).2 ⟨item, hp⟩
  | adjustInventory hi hlow hhigh hi' =>
      subst hi'
      rw [hsound.putInventory_eq_recount ((inventory?_eq_some_iff hf _ _).1 hi).1]
      exact hst.recount_one hf hlow hhigh
  | addCustomer _ _ _ _ => exact ⟨hst.counts, hst.lines⟩
  | moveCustomer _ hs _ => exact hsound.stocked_afterMove (hsound.store_self hs).2
  | addBasket _ hb =>
      subst hb
      exact ⟨hst.counts, hst.lines.insert (Keyed.All.empty _)⟩
  | assignBasket hc hb _ _ _ => exact hsound.stocked_afterAssign hc (hsound.basket_self hb).2
  | @takeIntoBasket _ p _ b _ _ i _ _ hb hq _ _ hi _ hle hhigh hi' hb' =>
      subst hi' hb'
      have hkept := choose_keeps hf hi
      have hproduct := (hst.of_keeps hkept.1).2.2
      rw [hkept.2] at hproduct
      have hlines := hst.lines _ b hb
      have hheld := Basket.quantity_nonneg hlines p
      refine hsound.stocked_traded hkept.1 (by omega) hhigh (hlines.insert ⟨?_, hproduct⟩)
      omega
  | @putBackFromBasket _ p _ b _ _ held i _ _ hb hheld hq hle _ _ hi _ hlow hhigh hi' hb' =>
      subst hi' hb'
      have hlines := hst.lines _ b hb
      refine hsound.stocked_traded (choose_keeps hf hi).1 hlow hhigh ?_
      -- What is left of the line is positive, or the line goes.
      dsimp only
      split
      · exact hlines.erase p
      · refine hlines.insert ⟨?_, (hlines p held hheld).2⟩
        omega
  | emptyBasket hb => exact hst.emptied hf hb
  | installDevice _ hs _ _ _ _ => exact hst.rewriteStore hs rfl
  | raiseEvent _ _ _ => exact ⟨hst.counts, hst.lines⟩
  | issueCommand _ _ _ _ => exact ⟨hst.counts, hst.lines⟩

end Shop

end Shopfloor
