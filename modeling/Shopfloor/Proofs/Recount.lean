import Shopfloor.Proofs.Search
/-!
# Counting Anew

All changes of stock are changes of counts, and `recount` is the one form in
which they are compared.

Writing one inventory back is a recount that gives every other inventory the
count it has. Recounts compose, because what an inventory is, where it stands
and which product it holds do not depend on its count. Choosing an inventory
does not look at counts either. So a loop that writes one inventory after the
other can be followed as a single recount of the shop it began with.

## Main definitions

* `Inventory.counted`, `Store.counted`: An inventory, and all of a store, with new counts.

## Theorems

* `recount_congr`, `recount_count`: Recounts are settled by what is kept.
* `putInventory_recount`: Writing an inventory back after a recount.
* `stockOf_recount`, `choose_map_counted`: Choosing does not look at counts.
-/

namespace Shopfloor

/-- An inventory with a new count. -/
def Inventory.counted (n : Inventory → Int) (i : Inventory) : Inventory := { i with count := n i }

/-- A store with new counts. -/
def Store.counted (n : Inventory → Int) (s : Store) : Store :=
  { s with inventory := s.inventory.mapValues fun _ i => i.counted n }

namespace Shop

variable {shop : Shop}

theorem recount_eq (n : Inventory → Int) :
    shop.recount n = { shop with stores := shop.stores.mapValues fun _ s => s.counted n } := rfl

/-- Two recounts are the same if they agree on every inventory that is kept. -/
theorem recount_congr (hf : Filing shop.stores) {n n' : Inventory → Int}
    (h : ∀ i, shop.Keeps i → n i = n' i) : shop.recount n = shop.recount n' := by
  have hstores : (shop.stores.mapValues fun _ s => s.counted n) =
      shop.stores.mapValues fun _ s => s.counted n' := by
    refine Keyed.mapValues_congr _ fun x s hs => ?_
    -- Every inventory that is looked at here is kept, by its store.
    have hinventory : (s.inventory.mapValues fun _ i => i.counted n) =
        s.inventory.mapValues fun _ i => i.counted n' := by
      refine Keyed.mapValues_congr _ fun k i hi => ?_
      unfold Inventory.counted
      rw [h i (keeps_of_get? hf hs hi).1]
    unfold Store.counted
    rw [hinventory]
  rw [recount_eq, recount_eq, hstores]

/-- A recount that gives every inventory its count changes nothing. -/
theorem recount_count : shop.recount Inventory.count = shop := by
  have hstores : (shop.stores.mapValues fun _ s => s.counted Inventory.count) = shop.stores := by
    refine Keyed.mapValues_eq_self _ _ fun x s _ => ?_
    have hinventory : (s.inventory.mapValues fun _ i => i.counted Inventory.count) = s.inventory :=
      Keyed.mapValues_eq_self _ _ fun k i _ => rfl
    unfold Store.counted
    rw [hinventory]
  rw [recount_eq, hstores]

/-- Writing an inventory back after a recount is a recount, too: it changes the count of this
    inventory and of no other. -/
theorem putInventory_recount (hf : Filing shop.stores) {i : Inventory} (hi : shop.Keeps i)
    (n : Inventory → Int) (c : Int) :
    (shop.recount n).putInventory { i with count := c } =
      shop.recount fun j => if j = i then c else n j := by
  rcases hi with ⟨s₀, hs₀, hi₀⟩
  -- Of all stores one is written, and of its inventories one.
  have hstores : ((shop.stores.mapValues fun _ s => s.counted n).adjust i.spot.store fun s =>
      { s with inventory := s.inventory.adjust i.id fun _ => { i with count := c } }) =
      shop.stores.mapValues fun _ s => s.counted fun j => if j = i then c else n j := by
    unfold Keyed.adjust
    rw [Keyed.mapValues_mapValues]
    refine Keyed.mapValues_congr _ fun x s hs => ?_
    unfold Store.counted
    by_cases hx : x = i.spot.store
    · -- The store that keeps it: only the entry under its id is this inventory.
      rw [hx, hs₀, Option.some.injEq] at hs
      subst hs
      have hinventory : ((s₀.inventory.mapValues fun _ j => j.counted n).mapValues fun k j =>
          if k = i.id then { i with count := c } else j) =
          s₀.inventory.mapValues fun _ j => j.counted fun j => if j = i then c else n j := by
        rw [Keyed.mapValues_mapValues]
        refine Keyed.mapValues_congr _ fun k j hj => ?_
        unfold Inventory.counted
        dsimp only
        by_cases hk : k = i.id
        · rw [hk, hi₀, Option.some.injEq] at hj
          rw [if_pos hk, if_pos hj.symm, hj]
        · have hne : j ≠ i := fun he => hk ((keeps_of_get? hf hs₀ hj).2.1.symm.trans (he ▸ rfl))
          rw [if_neg hk, if_neg hne]
      rw [if_pos hx]
      dsimp only
      rw [hinventory]
    · -- Any other store keeps other inventories.
      have hinventory : (s.inventory.mapValues fun _ j => j.counted n) =
          s.inventory.mapValues fun _ j => j.counted fun j => if j = i then c else n j := by
        refine Keyed.mapValues_congr _ fun k j hj => ?_
        have hne : j ≠ i := fun he => hx ((keeps_of_get? hf hs hj).2.2.symm.trans (he ▸ rfl))
        unfold Inventory.counted
        dsimp only
        rw [if_neg hne]
      rw [if_neg hx, hinventory]
  rw [recount_eq, recount_eq]
  unfold putInventory
  rw [hstores]

/-- Writing an inventory back with another count. -/
theorem putInventory_eq_recount (hf : Filing shop.stores) {i : Inventory} (hi : shop.Keeps i)
    (c : Int) :
    shop.putInventory { i with count := c } =
      shop.recount fun j => if j = i then c else j.count := by
  have h := putInventory_recount hf hi Inventory.count c
  rwa [recount_count] at h

/-- The stock of a product after a recount is the same stock with new counts. -/
theorem stockOf_recount (n : Inventory → Int) (p : String) :
    (shop.recount n).stockOf p = (shop.stockOf p).map (Inventory.counted n) := by
  have hall : (shop.recount n).stores.values.flatMap (fun s => s.inventory.values) =
      (shop.stores.values.flatMap fun s => s.inventory.values).map (Inventory.counted n) := by
    rw [recount_eq]
    unfold Keyed.values Keyed.mapValues Store.counted
    rw [List.map_map, List.flatMap_map, List.map_flatMap, List.flatMap_map]
    refine congrArg (fun f => List.flatMap f shop.stores.entries) (funext fun e => ?_)
    unfold Keyed.mapValues
    simp only [Function.comp_apply, List.map_map]
    rfl
  -- Sorting looks at ids, which a recount leaves alone.
  have hsort : ∀ l : List Inventory,
      (l.mergeSort fun a b => !decide (b.id < a.id)).map (Inventory.counted n) =
        (l.map (Inventory.counted n)).mergeSort fun a b => !decide (b.id < a.id) := fun l =>
    List.map_mergeSort fun a _ b _ => rfl
  unfold stockOf
  rw [hall, List.filter_map, hsort]
  rfl

/-- Which inventory is chosen does not depend on counts. -/
theorem choose_map_counted (n : Inventory → Int) (stock : List Inventory)
    (spot : Option AisleSpot) :
    choose (stock.map (Inventory.counted n)) spot =
      (choose stock spot).map (Inventory.counted n) := by
  -- Choosing looks at places, which a recount leaves alone.
  have hfind : ∀ s, (stock.map (Inventory.counted n)).find? (fun i => i.spot.inAisle == s) =
      (stock.find? fun i => i.spot.inAisle == s).map (Inventory.counted n) := fun s =>
    List.find?_map ..
  unfold choose
  cases spot with
  | none =>
      rw [Option.bind_none, Option.bind_none]
      exact List.head?_map
  | some s =>
      rw [Option.bind_some, Option.bind_some, hfind]
      cases stock.find? fun i => i.spot.inAisle == s with
      | none => exact List.head?_map
      | some i => rfl

end Shop

end Shopfloor
