import Shopfloor.Proofs.Act.Trade
import Shopfloor.Proofs.Invariant.Stocked
/-!
# What Emptying a Basket Does

A basket is emptied line by line. Each line chooses an inventory in the shop
that the lines before it left, asks how much room there is, and writes the
inventory back.

`returnLines_succeeds` follows the loop. Its invariant is that after some of
the lines the shop is the one the loop began with, restocked with the units of
exactly these lines. The next line can be read off the shop at the beginning,
for two reasons: choosing does not look at counts, and the inventory that is
chosen is one of the line's own product, of which no line before it put
anything back. So nothing depends on the order of the lines, and together they
are one recount.

Nothing in the loop is refused. A change of a count could be, but what is put
back is not negative and there is room for it, because the stock of the shop is
in range when the loop begins.

## Theorems

* `restocked_nothing`: Putting nothing back changes nothing.
* `restocked_line`: Putting the units of one more line back.
* `returnLine_succeeds`, `returnLines_succeeds`: One line, and all lines.
* `emptyBasket_succeeds`, `emptyBasket_meets`: A basket is emptied.
-/

namespace Shopfloor

namespace Shop

variable {shop : Shop} (action : String)

open Act

theorem refilled_of_ne {spot : Option AisleSpot} {units : String → Int} {i : Inventory}
    (h : choose (shop.stockOf i.product) spot ≠ some i) : shop.refilled spot units i = i.count :=
  if_neg h

theorem refilled_of_chosen {spot : Option AisleSpot} {units : String → Int} {i : Inventory}
    (h : choose (shop.stockOf i.product) spot = some i) :
    shop.refilled spot units i = i.count + min (units i.product) i.room :=
  if_pos h

/-- An inventory in range of whose product nothing is put back keeps its count. -/
theorem refilled_eq_count (hst : shop.Stocked) {spot : Option AisleSpot} {units : String → Int}
    {i : Inventory} (hi : shop.Keeps i) (hu : units i.product = 0) :
    shop.refilled spot units i = i.count := by
  by_cases h : choose (shop.stockOf i.product) spot = some i
  · have hrange := hst.of_keeps hi
    have hroom : 0 ≤ i.room := by
      unfold Inventory.room
      omega
    rw [refilled_of_chosen h, hu]
    omega
  · exact refilled_of_ne h

/-- Putting nothing back changes nothing. -/
theorem restocked_nothing (hf : Filing shop.stores) (hst : shop.Stocked)
    (spot : Option AisleSpot) : shop.restocked spot (fun _ => 0) = shop := by
  have h : shop.recount (shop.refilled spot fun _ => 0) = shop.recount Inventory.count :=
    recount_congr hf fun i hi => refilled_eq_count hst hi rfl
  exact h.trans recount_count

/-- Putting the units of one more line back changes at most the inventory that is chosen. -/
theorem restocked_line (hf : Filing shop.stores) (spot : Option AisleSpot) (units : String → Int)
    (p : String) (q : Int) :
    shop.restocked spot (fun x => if x = p then q else units x) =
      match choose (shop.stockOf p) spot with
      | none => shop.restocked spot units
      | some i => shop.recount fun j =>
          if j = i then i.count + min q i.room else shop.refilled spot units j := by
  unfold restocked
  cases hchoose : choose (shop.stockOf p) spot with
  | none =>
      -- Inventories of the product are not chosen, and the others do not see its units.
      refine recount_congr hf fun j hj => ?_
      by_cases hcj : choose (shop.stockOf j.product) spot = some j
      · have hne : j.product ≠ p := by
          rintro hp
          rw [hp, hchoose] at hcj
          cases hcj
        rw [refilled_of_chosen hcj, refilled_of_chosen hcj, if_neg hne]
      · rw [refilled_of_ne hcj, refilled_of_ne hcj]
  | some i =>
      have hproduct := (choose_keeps hf hchoose).2
      refine recount_congr hf fun j hj => ?_
      -- Only the one that is chosen for the product gets more; it is one of the product.
      by_cases hji : j = i
      · subst hji
        have hcj : choose (shop.stockOf j.product) spot = some j := hproduct ▸ hchoose
        rw [refilled_of_chosen hcj, if_pos hproduct, if_pos rfl]
      · rw [if_neg hji]
        by_cases hcj : choose (shop.stockOf j.product) spot = some j
        · have hne : j.product ≠ p := by
            rintro hp
            rw [hp, hchoose, Option.some.injEq] at hcj
            exact hji hcj.symm
          rw [refilled_of_chosen hcj, refilled_of_chosen hcj, if_neg hne]
        · rw [refilled_of_ne hcj, refilled_of_ne hcj]

/-- One line is given back, in a shop to which nothing of its product was given back yet. -/
theorem returnLine_succeeds (hf : Filing shop.stores) (hst : shop.Stocked)
    (spot : Option AisleSpot) {units : String → Int} {p : String} {q : Int} (hq : 0 ≤ q)
    (hp : units p = 0) :
    (returnLine action spot p q).Succeeds (shop.restocked spot units) fun _ shop' =>
      shop' = shop.restocked spot fun x => if x = p then q else units x := by
  rw [restocked_line hf]
  unfold returnLine
  refine succeeds_bind_get ?_
  -- Which inventory is chosen was settled before anything was put back.
  have hstock : choose ((shop.restocked spot units).stockOf p) spot =
      (choose (shop.stockOf p) spot).map (Inventory.counted (shop.refilled spot units)) := by
    unfold restocked
    rw [stockOf_recount, choose_map_counted]
  rw [hstock]
  cases hchoose : choose (shop.stockOf p) spot with
  | none => exact succeeds_pure rfl
  | some i =>
      rcases choose_keeps hf hchoose with ⟨hkept, hproduct⟩
      -- Nothing of its product was put back, so it still has its first count.
      have hsame : i.counted (shop.refilled spot units) = i := by
        unfold Inventory.counted
        rw [refilled_eq_count hst hkept (hproduct.symm ▸ hp)]
      rw [Option.map_some, hsame]
      have hrange := hst.of_keeps hkept
      have hroom : i.room = i.capacity - i.count := rfl
      -- What is put back is not negative and there is room for it.
      have hchange : i.change (min q i.room) action =
          .ok { i with count := i.count + min q i.room } :=
        (Inventory.change_eq_ok_iff _ _ _ _).2 ⟨by omega, by omega, rfl⟩
      refine succeeds_bind_ofExcept hchange ⟨⟨⟩, _, runIn_modify _, ?_⟩
      exact putInventory_recount hf hkept (shop.refilled spot units) _

/-- All lines are given back: together they are one change of the shop they began with. -/
theorem returnLines_succeeds (hf : Filing shop.stores) (hst : shop.Stocked)
    (spot : Option AisleSpot) (lines : List (String × Int)) (hnodup : (lines.map Prod.fst).Nodup)
    (hpos : ∀ e ∈ lines, 0 ≤ e.2) {units : String → Int} (hunits : ∀ e ∈ lines, units e.1 = 0) :
    (lines.forM fun (p, q) => returnLine action spot p q).Succeeds (shop.restocked spot units)
      fun _ shop' => shop' = shop.restocked spot fun x => (lines.lookup x).getD (units x) := by
  induction lines generalizing units with
  | nil => exact succeeds_pure rfl
  | cons e lines ih =>
      rcases e with ⟨p, q⟩
      rw [List.map_cons, List.nodup_cons] at hnodup
      have hline := returnLine_succeeds action hf hst spot (hpos _ (List.mem_cons_self ..))
        (hunits _ (List.mem_cons_self ..))
      rw [List.forM_eq_forM, List.forM_cons]
      refine succeeds_bind ?_
      rcases hline with ⟨u, shop₁, hrun, rfl⟩
      refine ⟨u, _, hrun, ?_⟩
      have hrest : ∀ e ∈ lines, (if e.1 = p then q else units e.1) = 0 := by
        intro e he
        -- The products of the other lines are other products.
        have hne : e.1 ≠ p := fun hep => hnodup.1 (List.mem_map.2 ⟨e, he, hep⟩)
        rw [if_neg hne]
        exact hunits e (List.mem_cons_of_mem _ he)
      have hlines := @ih hnodup.2 (fun e he => hpos e (List.mem_cons_of_mem _ he))
        (fun x => if x = p then q else units x) hrest
      rcases hlines with ⟨v, shop₂, hrun₂, hshop₂⟩
      refine ⟨v, shop₂, hrun₂, hshop₂.trans ?_⟩
      refine congrArg (shop.restocked spot) (funext fun x => ?_)
      by_cases hx : x = p
      · have hgone : lines.lookup x = none :=
          (Keyed.lookup_eq_none_iff lines x).2 (hx ▸ hnodup.1)
        have hhead : (x == p) = true := beq_iff_eq.2 hx
        rw [hgone, Option.getD_none, if_pos hx, List.lookup_cons, hhead, Option.getD_some]
      · have hhead : (x == p) = false := beq_eq_false_iff_ne.2 hx
        rw [if_neg hx, List.lookup_cons, hhead]

/-- A basket that is registered is emptied, and nothing is refused. -/
theorem emptyBasket_succeeds (hf : Filing shop.stores) (hst : shop.Stocked) {k : String}
    {b : Basket} (hb : shop.baskets.get? k = some b) :
    (emptyBasket action (some k)).Succeeds shop fun b' shop' =>
      b' = { b with lines := .empty } ∧ shop' = shop.emptied b := by
  unfold emptyBasket
  refine succeeds_bind (theBasket_succeeds action hb (succeeds_bind_get (succeeds_bind ?_)))
  have hpos : ∀ e ∈ b.lines.entries, 0 ≤ e.2 := by
    rintro ⟨p, q⟩ he
    have hline := (hst.lines k b hb p q ((Keyed.mem_entries_iff _ _ _).1 he)).1
    omega
  -- Nothing was given back before the first line.
  have hlines := @returnLines_succeeds shop action hf hst (shop.standing b) b.lines.entries
    b.lines.nodup hpos (fun _ => 0) fun _ _ => rfl
  rw [restocked_nothing hf hst] at hlines
  rcases hlines with ⟨u, shop₁, hrun, rfl⟩
  exact ⟨u, _, hrun, succeeds_bind_modify (succeeds_pure ⟨rfl, rfl⟩)⟩

theorem emptyBasket_meets (hf : Filing shop.stores) (hst : shop.Stocked)
    (basket : Option String) :
    (emptyBasket action basket).Meets shop fun b shop' =>
      Step shop (.clearBasket basket) (.basket b) shop' := by
  cases basket with
  | none => exact meets_bind_fail _ _ _
  | some k =>
      cases hb : shop.baskets.get? k with
      | none =>
          -- No basket of this id is registered.
          unfold emptyBasket theBasket
          rw [bind_assoc]
          refine meets_bind_get ?_
          rw [Keyed.find?_some, hb]
          exact meets_bind_fail _ _ _
      | some b =>
          refine (meets_of_succeeds (emptyBasket_succeeds action hf hst hb)).mono ?_
          rintro b' shop' ⟨rfl, rfl⟩
          exact Step.emptyBasket hb

end Shop

end Shopfloor
