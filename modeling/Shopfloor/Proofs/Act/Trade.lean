import Shopfloor.Proofs.Act.Provision
/-!
# What Trade Does

The acts that move units between a shelf and a basket, described by `Meets`.

Taking and putting back write twice, first the inventory and then the basket.
The second write is never refused: what the basket would refuse was refused
before the first. Emptying a basket is another matter, since it writes line by
line and every line could be refused for the count of an inventory. It is
treated apart, where it is known what counts can be.

## Theorems

* `change_eq_ok_iff`, `add_eq_ok`, `remove_eq_ok`: Changes of one record.
* `resolve_meets`, `checkTogether_meets`: Which inventory, and whether one stands beside it.
* `takeIntoBasket_meets`: Units go into a basket.
* `putBackFromBasket_meets`: Units go back.
* `adjustInventory_meets`: A count is changed directly.
-/

namespace Shopfloor

theorem Inventory.change_eq_ok_iff (i i' : Inventory) (delta : Int) (action : String) :
    i.change delta action = .ok i' ↔
      0 ≤ i.count + delta ∧ i.count + delta ≤ i.capacity ∧
        i' = { i with count := i.count + delta } := by
  unfold Inventory.change
  by_cases hlow : i.count + delta < 0
  · rw [if_pos hlow]
    constructor
    · intro h
      cases h
    · intro h
      omega
  · rw [if_neg hlow]
    by_cases hhigh : i.capacity < i.count + delta
    · rw [if_pos hhigh]
      constructor
      · intro h
        cases h
      · intro h
        omega
    · rw [if_neg hhigh, Except.ok.injEq]
      constructor
      · rintro rfl
        exact ⟨by omega, by omega, rfl⟩
      · rintro ⟨-, -, rfl⟩
        rfl

theorem Basket.add_eq_ok (b : Basket) (p : String) {q : Int} (hq : 0 < q) :
    b.add p q = .ok { b with lines := b.lines.insert p (b.quantity p + q) } := by
  unfold Basket.add
  rw [if_neg (by omega)]

theorem Basket.remove_eq_ok (b : Basket) {p : String} {q held : Int}
    (hheld : b.lines.get? p = some held) (hq : 0 < q) (hle : q ≤ held) :
    b.remove p q = .ok { b with
      lines := if held = q then b.lines.erase p else b.lines.insert p (held - q) } := by
  unfold Basket.remove
  rw [hheld]
  dsimp only
  rw [if_neg (by omega)]
  by_cases he : held = q
  · rw [if_pos (by omega), if_pos he]
  · rw [if_neg (by omega), if_neg he]

namespace Shop

variable {shop : Shop} (action : String)

open Act

theorem resolve_meets (product : String) (spot : Option AisleSpot) :
    (resolve action product spot).Meets shop fun i shop' =>
      shop' = shop ∧ choose (shop.stockOf product) spot = some i := by
  unfold resolve
  refine meets_bind_get ?_
  cases hi : choose (shop.stockOf product) spot with
  | none => exact meets_fail _ _
  | some i => exact meets_pure ⟨rfl, rfl⟩

theorem checkTogether_meets (b : Basket) (i : Inventory) (spot : Option AisleSpot) :
    (checkTogether action b i spot).Meets shop fun _ shop' =>
      shop' = shop ∧ ∃ owner s, b.customer = some owner ∧ spot = some s ∧ i.spot.inAisle = s := by
  unfold checkTogether
  cases hb : b.customer with
  | none => exact meets_fail _ _
  | some owner =>
      -- A basket with an owner: the owner has to stand in the aisle of the inventory.
      cases spot with
      | none => exact meets_fail _ _
      | some s =>
          dsimp only
          by_cases hs : i.spot.inAisle = s
          · rw [if_neg (not_not.2 hs)]
            exact meets_pure ⟨rfl, owner, s, rfl, rfl, hs⟩
          · rw [if_pos hs]
            exact meets_fail _ _

/-- The quantity that is taken: it has to be given, and to be positive. -/
theorem meets_positive {α : Type} {Q : α → Shop → Prop} {quantity : Option Int}
    {rest : Int → Act α} (h : ∀ q, quantity = some q → 0 < q → (rest q).Meets shop Q) :
    (match quantity with
      | some q =>
        if q ≤ 0 then fail action (.quantityNotPositive quantity) >>= rest else pure q >>= rest
      | none => fail action (.quantityNotPositive none) >>= rest).Meets shop Q := by
  cases quantity with
  | none => exact meets_bind_fail _ _ _
  | some q =>
      dsimp only
      by_cases hq : q ≤ 0
      · rw [if_pos hq]
        exact meets_bind_fail _ _ _
      · rw [if_neg hq]
        exact meets_bind_pure (h q rfl (by omega))

theorem takeIntoBasket_meets (basket product : Option String) (quantity : Option Int) :
    (takeIntoBasket action basket product quantity).Meets shop fun b shop' =>
      Step shop (.addBasketProduct basket product quantity) (.basket b) shop' := by
  unfold takeIntoBasket
  refine meets_bind_look (theBasket_meets action basket) fun b hb => ?_
  rcases hb with ⟨k, rfl, hb⟩
  refine meets_positive action fun q hquantity hq => ?_
  subst hquantity
  cases product with
  | none => exact meets_bind_fail _ _ _
  | some p =>
      refine meets_bind_pure (meets_bind_get ?_)
      refine meets_bind_look (resolve_meets action p _) fun i hi => ?_
      refine meets_bind_look (checkTogether_meets action b i _) fun _ htogether => ?_
      rcases htogether with ⟨owner, spot, ho, hspot, hin⟩
      rw [hspot] at hi
      dsimp only
      by_cases hle : i.count < q
      · rw [if_pos hle]
        exact meets_bind_fail _ _ _
      · rw [if_neg hle]
        refine meets_bind_ofExcept fun i' hi' => ?_
        rcases (Inventory.change_eq_ok_iff _ _ _ _).1 hi' with ⟨hlow, hhigh, rfl⟩
        -- The shelf gives the units away; the basket takes any positive number.
        refine meets_of_succeeds (succeeds_bind_modify ?_)
        refine succeeds_bind_ofExcept (b.add_eq_ok p hq) (succeeds_bind_modify (succeeds_pure ?_))
        exact Step.takeIntoBasket hb hq ho hspot hi hin (by omega) (by omega) rfl rfl

theorem putBackFromBasket_meets (basket product : Option String) (quantity : Option Int) :
    (putBackFromBasket action basket product quantity).Meets shop fun b shop' =>
      Step shop (.removeBasketProduct basket product quantity) (.basket b) shop' := by
  unfold putBackFromBasket
  refine meets_bind_look (theBasket_meets action basket) fun b hb => ?_
  rcases hb with ⟨k, rfl, hb⟩
  cases product with
  | none => exact meets_bind_fail _ _ _
  | some p =>
      rw [Keyed.find?_some]
      cases hheld : b.lines.get? p with
      | none => exact meets_bind_fail _ _ _
      | some held =>
          refine meets_bind_pure ?_
          cases quantity with
          | none => exact meets_bind_throw _ _
          | some q =>
              dsimp only
              by_cases hbad : q ≤ 0 ∨ held < q
              · rw [if_pos hbad]
                exact meets_bind_throw _ _
              · rw [if_neg hbad]
                refine meets_bind_pure (meets_bind_get ?_)
                refine meets_bind_look (resolve_meets action p _) fun i hi => ?_
                refine meets_bind_look (checkTogether_meets action b i _) fun _ htogether => ?_
                rcases htogether with ⟨owner, spot, ho, hspot, hin⟩
                rw [hspot] at hi
                refine meets_bind_ofExcept fun i' hi' => ?_
                rcases (Inventory.change_eq_ok_iff _ _ _ _).1 hi' with ⟨hlow, hhigh, rfl⟩
                -- The basket holds what goes back, so it lets go of it.
                refine meets_of_succeeds (succeeds_bind_modify ?_)
                refine succeeds_bind_ofExcept (b.remove_eq_ok hheld (by omega) (by omega))
                  (succeeds_bind_modify (succeeds_pure ?_))
                exact Step.putBackFromBasket hb hheld (by omega) (by omega) ho hspot hi hin hlow
                  hhigh rfl rfl

theorem adjustInventory_meets (id : Option String) (delta : Int) :
    (adjustInventory action id delta).Meets shop fun i shop' =>
      Step shop (.updateInventory id delta) (.inventory i) shop' := by
  unfold adjustInventory
  refine meets_bind_look (theInventory_meets action id) fun i hi => ?_
  rcases hi with ⟨k, rfl, hi⟩
  refine meets_bind_ofExcept fun i' hi' => ?_
  rcases (Inventory.change_eq_ok_iff _ _ _ _).1 hi' with ⟨hlow, hhigh, rfl⟩
  exact meets_write (Step.adjustInventory hi hlow hhigh rfl)

end Shop

end Shopfloor
