import Shopfloor.Proofs.Picking.Conditions
/-!
# Taking and Putting Back

Each of the two trades undoes the other.

Neither remembers the inventory of the other; both find theirs anew. They find
the same one because nothing that is looked at on the way has changed. The owner
stands where they stood, and the choice among the inventories of a product looks
at their ids and at where they are, never at counts: `handover_traded` says so.
The bounds hold on the way back, since the count returns to where it was, within
its range.

What is written on the way back overwrites what was written before, and it is
what had been there, so the shop is the same to the last list. Only a line that
had gone comes back in another place, as the last one.

## Main definitions

* `Basket.lineLast`: A basket with the line of a product put last.

## Theorems

* `Basket.minus_plus`, `Basket.plus_minus`: The basket is what it was.
* `traded_traded`: What is written last counts.
* `handover_traded`: Units change hands at the same inventory again.
* `trades_undo`: Each trade undoes the other.
-/

namespace Shopfloor

/-- A basket with the line of a product put last. -/
def Basket.lineLast (b : Basket) (p : String) : Basket :=
  { b with lines := (b.lines.erase p).insert p (b.quantity p) }

/-- Units that went into a basket whose lines are positive come out again. -/
theorem Basket.minus_plus (b : Basket) {p : String} (q : Int)
    (hpos : ∀ n, b.lines.get? p = some n → 1 ≤ n) : (b.plus p q).minus p q = b := by
  have hquantity : (b.plus p q).quantity p = b.quantity p + q :=
    quantity_of_get? (Keyed.get?_insert_self _ _ _)
  unfold minus
  rw [hquantity]
  unfold plus
  dsimp only
  cases hp : b.lines.get? p with
  | none =>
      -- The line was new, so it goes as it came.
      have hnothing : b.quantity p = 0 := by
        unfold quantity
        rw [hp, Option.getD_none]
      rw [hnothing, if_pos (zero_add q), Keyed.erase_insert _ hp]
  | some n =>
      have hn := quantity_of_get? hp
      have hline := hpos n hp
      rw [hn, if_neg (by omega), Keyed.insert_insert, add_sub_cancel_right,
        Keyed.insert_eq_self _ hp]

/-- Units that came out of a basket go in again; if none were left, their line is the last one. -/
theorem Basket.plus_minus (b : Basket) {p : String} {held : Int} (q : Int)
    (hheld : b.lines.get? p = some held) :
    (b.minus p q).plus p q = if q = held then b.lineLast p else b := by
  have hn := quantity_of_get? hheld
  by_cases hall : q = held
  · subst hall
    have hlines : (b.minus p q).lines = b.lines.erase p := if_pos hn
    have hquantity : (b.minus p q).quantity p = 0 := by
      unfold quantity
      rw [hlines, Keyed.get?_erase_self, Option.getD_none]
    rw [if_pos rfl]
    unfold plus lineLast
    rw [hquantity, hlines, hn, zero_add]
    rfl
  · have hlines : (b.minus p q).lines = b.lines.insert p (held - q) := by
      unfold minus
      dsimp only
      rw [hn, if_neg (Ne.symm hall)]
    have hquantity : (b.minus p q).quantity p = held - q :=
      quantity_of_get? (hlines ▸ Keyed.get?_insert_self _ _ _)
    rw [if_neg hall]
    unfold plus
    rw [hquantity, hlines, Keyed.insert_insert, sub_add_cancel, Keyed.insert_eq_self _ hheld]
    rfl

/-- A basket with a line put last has the same lines, and that one is the last. -/
theorem Basket.lineLast_lines (b : Basket) {p : String} {held : Int}
    (hheld : b.lines.get? p = some held) :
    (b.lineLast p).lines.entries = (b.lines.erase p).entries ++ [(p, held)] ∧
      ∀ x, (b.lineLast p).lines.get? x = b.lines.get? x := by
  have hlines : (b.lineLast p).lines = (b.lines.erase p).insert p held := by
    unfold lineLast
    rw [quantity_of_get? hheld]
  rw [hlines]
  exact ⟨Keyed.entries_insert_erase _ p held, Keyed.get?_insert_erase _ hheld⟩

namespace Shop

variable {shop : Shop} {k p : String} {q : Int} {b b' : Basket} {i : Inventory}

/-! ## Writing twice -/

theorem putInventory_putInventory (i : Inventory) (c c' : Int) :
    (shop.putInventory { i with count := c }).putInventory { i with count := c' } =
      shop.putInventory { i with count := c' } := by
  unfold putInventory
  dsimp only
  rw [Keyed.adjust_adjust]
  simp only [Keyed.adjust_adjust]

theorem putInventory_self (h : shop.Keeps i) : shop.putInventory i = shop := by
  rcases h with ⟨s, hs, hi⟩
  have hstores : (shop.stores.adjust i.spot.store fun s =>
      { s with inventory := s.inventory.adjust i.id fun _ => i }) = shop.stores := by
    refine Keyed.adjust_eq_self _ fun s' hs' => ?_
    rw [hs, Option.some.injEq] at hs'
    subst hs'
    rw [Keyed.adjust_eq_self]
    intro j hj
    rw [hi, Option.some.injEq] at hj
    exact hj
  unfold putInventory
  rw [hstores]

theorem putBasket_putBasket (hid : b.id = b'.id) :
    (shop.putBasket b).putBasket b' = shop.putBasket b' := by
  unfold putBasket
  dsimp only
  rw [hid, Keyed.adjust_adjust]

/-- When an inventory has its count again, the basket is all that is left of two trades. -/
theorem traded_traded (hi : shop.Keeps i) (c : Int) {n : Int} (hn : n = i.count) (b b' : Basket)
    (hb : b.id = b'.id) :
    (shop.traded { i with count := c } b).traded { i with count := n } b' = shop.putBasket b' := by
  subst hn
  -- An inventory and a basket may be written in either order.
  have hswap : ∀ i', ((shop.putInventory { i with count := c }).putBasket b).putInventory i' =
      ((shop.putInventory { i with count := c }).putInventory i').putBasket b := fun _ => rfl
  unfold traded
  rw [hswap, putBasket_putBasket hb, putInventory_putInventory, putInventory_self hi]

/-! ## Trading twice -/

/-- Units change hands at the same inventory again, whatever it and the basket hold meanwhile. -/
theorem handover_traded (hf : Filing shop.stores) {action action' : String} (c : Int)
    (hcustomer : b'.customer = b.customer)
    (h : shop.handover action b p (shop.standing b) = .ok i) :
    (shop.traded { i with count := c } b').handover action' b' p
      ((shop.traded { i with count := c } b').standing b') = .ok { i with count := c } := by
  rcases (handover_eq_ok_iff _ _ _ _ _).1 h with ⟨owner, spot, howner, hspot, hi, hin⟩
  have hkeeps := (choose_keeps hf hi).1
  have hstanding : (shop.traded { i with count := c } b').standing b' = shop.standing b := by
    unfold standing
    rw [hcustomer]
    rfl
  -- Writing the inventory back is a recount, and choosing does not look at counts.
  have hstock : (shop.traded { i with count := c } b').stockOf p =
      (shop.stockOf p).map (Inventory.counted fun j => if j = i then c else j.count) := by
    rw [← stockOf_recount, ← putInventory_eq_recount hf hkeeps]
    rfl
  rw [handover_eq_ok_iff, hstanding, hstock]
  refine ⟨owner, spot, hcustomer.trans howner, hspot, ?_, hin⟩
  rw [choose_map_counted, hi, Option.map_some]
  unfold Inventory.counted
  dsimp only
  rw [if_pos rfl]

/-- What was written of a basket is found under its id. -/
theorem get?_baskets_traded (i : Inventory) (b' : Basket) (hb : shop.baskets.get? k = some b)
    (hid : b'.id = k) : (shop.traded i b').baskets.get? k = some b' := by
  change (shop.baskets.adjust b'.id fun _ => b').get? k = some b'
  rw [Keyed.get?_adjust, if_pos hid.symm, hb]
  rfl

/-- Units that were taken can be put back, and nothing is left of it. -/
theorem run_putBack_of_taken (hsound : shop.Sound) {token token' : Option String}
    (htoken' : isToken token' = true) {basket product : Option String} {quantity : Option Int}
    {reply : Reply} {shop' : Shop}
    (h : run token (.addBasketProduct basket product quantity) shop = (.ok reply, shop')) :
    ∃ reply', run token' (.removeBasketProduct basket product quantity) shop' =
      (.ok reply', shop) := by
  have hf := hsound.filed.floor
  cases run_ok hsound h with
  | query hquery => cases hquery
  | @takeIntoBasket k p owner b b' q i i' spot hb hq ho hspot hi hin hle hhigh hi' hb' =>
      have htaken : b' = b.plus p q := hb'
      subst hi' htaken
      have hkeeps := (choose_keeps hf hi).1
      have hrange := hsound.stocked.of_keeps hkeeps
      rcases hsound.basket_self hb with ⟨hid, hself⟩
      have hlines := hsound.stocked.lines k b hb
      have hnonneg := Basket.quantity_nonneg hlines p
      -- The taken units are held, and there is room where they came from.
      have hhandover : shop.handover "Add Basket Product" b p (shop.standing b) = .ok i :=
        (handover_eq_ok_iff _ _ _ _ _).2 ⟨owner, spot, ho, hspot, hi, hin⟩
      have hback := run_returning_of_handover htoken' (q := q)
        (get?_baskets_traded { i with count := i.count - q } (b.plus p q) hb hid)
        (Keyed.get?_insert_self b.lines p (b.quantity p + q))
        (handover_traded hf (i.count - q) rfl hhandover) hq
        (by omega) (by dsimp only; omega) (by dsimp only; omega)
      have hbasket : (b.plus p q).minus p q = b :=
        b.minus_plus q fun n hn => (hlines p n hn).1
      have hshop := traded_traded hkeeps (i.count - q) (sub_add_cancel i.count q) (b.plus p q) b rfl
      dsimp only at hback
      rw [hbasket, hshop, hsound.putBasket_self hb,
        b.logged_of_writable (writable_of_run_taking h)] at hback
      exact ⟨_, hback⟩

/-- Units that were put back can be taken again. If some of the line were left nothing else is left
    of it; if none were, the line is the last one now. -/
theorem run_pick_of_putBack (hsound : shop.Sound) {token token' : Option String}
    (htoken' : isToken token' = true) {basket product : Option String} {quantity : Option Int}
    {reply : Reply} {shop' : Shop}
    (h : run token (.removeBasketProduct basket product quantity) shop = (.ok reply, shop')) :
    ∃ k p q b held, basket = some k ∧ product = some p ∧ quantity = some q ∧
      shop.baskets.get? k = some b ∧ b.lines.get? p = some held ∧ q ≤ held ∧
      ∃ reply', run token' (.addBasketProduct basket product quantity) shop' =
        (.ok reply', if q = held then shop.putBasket (b.lineLast p) else shop) := by
  have hf := hsound.filed.floor
  cases run_ok hsound h with
  | query hquery => cases hquery
  | @putBackFromBasket k p owner b b' q held i i' spot hb hheld hq hle ho hspot hi hin hlow hhigh hi'
      hb' =>
      have hreturned : b' = b.minus p q := by
        rw [hb']
        unfold Basket.minus
        rw [Basket.quantity_of_get? hheld]
      subst hi' hreturned
      have hkeeps := (choose_keeps hf hi).1
      have hrange := hsound.stocked.of_keeps hkeeps
      rcases hsound.basket_self hb with ⟨hid, hself⟩
      -- The units are where they were put, and there was room for fewer of them already.
      have hhandover : shop.handover "Remove Basket Product" b p (shop.standing b) = .ok i :=
        (handover_eq_ok_iff _ _ _ _ _).2 ⟨owner, spot, ho, hspot, hi, hin⟩
      have hagain := run_taking_of_handover htoken' (q := q)
        (get?_baskets_traded { i with count := i.count + q } (b.minus p q) hb hid)
        (handover_traded hf (i.count + q) rfl hhandover) hq
        (by dsimp only; omega) (by dsimp only; omega)
      have hshop := traded_traded hkeeps (i.count + q) (add_sub_cancel_right i.count q) (b.minus p q)
        ((b.minus p q).plus p q) rfl
      dsimp only at hagain
      rw [hshop, Basket.logged_of_writable _ (writable_of_run_returning h),
        b.plus_minus q hheld] at hagain
      refine ⟨k, p, q, b, held, rfl, rfl, rfl, hb, hheld, hle, ?_⟩
      by_cases hall : q = held
      · rw [if_pos hall] at hagain ⊢
        exact ⟨_, hagain⟩
      · rw [if_neg hall, hsound.putBasket_self hb] at hagain
        rw [if_neg hall]
        exact ⟨_, hagain⟩

/-- The two trades undo each other. What was taken and is put back at once leaves the shop as it was,
    with the lines in their order. What was put back and is taken at once does, too, if some of the
    line were left; if none were, the shop is as it was but that the line stands last in its basket,
    which holds the same. -/
theorem trades_undo (h : Reachable shop) {token token' : Option String}
    (htoken' : isToken token' = true) (basket product : Option String) (quantity : Option Int)
    (reply : Reply) (shop' : Shop) :
    (run token (.addBasketProduct basket product quantity) shop = (.ok reply, shop') →
      ∃ reply', run token' (.removeBasketProduct basket product quantity) shop' =
        (.ok reply', shop)) ∧
    (run token (.removeBasketProduct basket product quantity) shop = (.ok reply, shop') →
      ∃ k p q b held, basket = some k ∧ product = some p ∧ quantity = some q ∧
        shop.baskets.get? k = some b ∧ b.lines.get? p = some held ∧ q ≤ held ∧
        (∃ reply', run token' (.addBasketProduct basket product quantity) shop' =
          (.ok reply', if q = held then shop.putBasket (b.lineLast p) else shop)) ∧
        (b.lineLast p).lines.entries = (b.lines.erase p).entries ++ [(p, held)] ∧
        ∀ x, (b.lineLast p).lines.get? x = b.lines.get? x) := by
  have hsound := h.sound
  refine ⟨run_putBack_of_taken hsound htoken', fun hrun => ?_⟩
  rcases run_pick_of_putBack hsound htoken' hrun with
    ⟨k, p, q, b, held, hk, hp, hq, hb, hheld, hle, hagain⟩
  exact ⟨k, p, q, b, held, hk, hp, hq, hb, hheld, hle, hagain, b.lineLast_lines hheld⟩

/-- In the morning two units are taken and put back; and all three units of the basket are put back
    and taken again. -/
theorem trades_undo_in_the_morning :
    let shop := runAll .empty morning
    let take (q : Int) : Operation := .addBasketProduct (some "b1") (some "rye") (some q)
    let give (q : Int) : Operation := .removeBasketProduct (some "b1") (some "rye") (some q)
    let ask (op : Operation) (shop : Shop) := run (some "key") op shop
    (∃ reply, ask (give 2) (ask (take 2) shop).2 = (.ok reply, shop)) ∧
      ∃ b reply, shop.baskets.get? "b1" = some b ∧
        ask (take 3) (ask (give 3) shop).2 = (.ok reply, shop.putBasket (b.lineLast "rye")) := by
  intro shop take give ask
  have hreach : Reachable shop := Reachable.empty.runAll morning
  have htoken : isToken (some "key") = true := by decide +kernel
  have htake : (ask (take 2) shop).1.isOk = true := by decide +kernel
  have hgive : (ask (give 3) shop).1.isOk = true := by decide +kernel
  constructor
  · rcases hrun : ask (take 2) shop with ⟨_ | reply, shop'⟩
    · rw [hrun] at htake
      cases htake
    · exact (trades_undo hreach htoken _ _ _ reply shop').1 hrun
  · rcases hrun : ask (give 3) shop with ⟨_ | reply, shop'⟩
    · rw [hrun] at hgive
      cases hgive
    · rcases (trades_undo hreach htoken _ _ _ reply shop').2 hrun with
        ⟨_, _, q, b, held, hk, hp, hq, hb, hheld, -, ⟨reply', hagain⟩, -⟩
      cases hk
      cases hp
      cases hq
      have hline : (shop.baskets.get? "b1").bind (fun b => b.lines.get? "rye") = some 3 := by
        decide +kernel
      rw [hb, Option.bind_some, hheld, Option.some.injEq] at hline
      rw [if_pos hline.symm] at hagain
      exact ⟨b, reply', hb, hagain⟩

end Shop

end Shopfloor
