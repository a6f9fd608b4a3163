import Shopfloor.Proofs.Order.Provision
/-!
# Operations in Alike Shops

Every operation, in two shops that differ in order.

The acts that move customers, baskets and units are taken through two shops that
differ in order, as those that provision are. Two of them depend on more than
lookups. Which inventory a product is taken from is settled by the ids of the
inventories, so it is the same one. And emptying a basket goes through its lines
in their order, which may differ; the two runs have to be compared where they
end, and there each is one recount of the shop it began in.

## Theorems

* `moveCustomer_agree`, `assignBasket_agree`: Customers and baskets.
* `takeIntoBasket_agree`, `putBackFromBasket_agree`, `emptyBasket_agree`: Trade.
* `carryOut_agree`, `perform_agree`: Operations.
-/

namespace Shopfloor

open Act

theorem Basket.Alike.add {b b' : Basket} (h : b.Alike b') (p : String) (q : Int) :
    SameEnd Basket.Alike (b.add p q) (b'.add p q) := by
  unfold Basket.add
  rw [h.quantity_eq]
  split
  · exact .error _
  · exact .ok { h with lines := h.lines.insert p rfl }

theorem Basket.Alike.remove {b b' : Basket} (h : b.Alike b') (p : String) (q : Int) :
    SameEnd Basket.Alike (b.remove p q) (b'.remove p q) := by
  unfold Basket.remove
  rw [h.lines.get?_eq]
  cases b'.lines.get? p with
  | none =>
      dsimp only
      rw [h.id]
      exact .error _
  | some held =>
      dsimp only
      split
      · exact .error _
      · split
        · exact .ok { h with lines := h.lines.erase p }
        · exact .ok { h with lines := h.lines.insert p rfl }

namespace Shop

variable {shop shop' : Shop} (action : String)

theorem updateStore_agree (h : shop.Alike shop') (id description address : Option String) :
    (updateStore action id description address).Agree shop
      (updateStore action id description address) shop' (Done Store.Alike) := by
  unfold updateStore
  refine agree_bind_look (theStore_agree action h id) fun s s' hs => ?_
  have hupdated : Store.Alike
      { s with
        description := description.getD s.description
        address := address.getD s.address }
      { s' with
        description := description.getD s'.description
        address := address.getD s'.address } := by
    rw [hs.description, hs.address]
    exact { hs with address := rfl, description := rfl }
  exact agree_write hupdated (h.putStore hupdated)

theorem closeStore_agree (h : shop.Alike shop') (id : Option String) :
    (closeStore action id).Agree shop (closeStore action id) shop' (Done (· = ·)) := by
  unfold closeStore
  refine agree_bind_look (theStore_agree action h id) fun s s' hs => ?_
  exact .ok ⟨rfl, h.without hs⟩

theorem moveCustomer_agree (h : shop.Alike shop') (id store number : Option String) :
    (moveCustomer action id store number).Agree shop (moveCustomer action id store number) shop'
      (Done (· = ·)) := by
  unfold moveCustomer
  refine agree_bind_look (theCustomer_agree action h id) ?_
  rintro c _ rfl
  refine agree_bind_look (theStore_agree action h store) fun s s' hs => ?_
  refine agree_bind_ofExcept h (hs.getAisle number) fun a a' ha => ?_
  rw [hs.id, ha.number]
  refine agree_bind_modify (agree_bind_get ?_)
  -- The customer has moved in both shops, and the basket in neither.
  have hmoved : Alike
      { shop with
        stores := relist shop.stores c s'.id
        customers := shop.customers.adjust c.id fun _ => c.moveTo ⟨s'.id, a'.number⟩ }
      { shop' with
        stores := relist shop'.stores c s'.id
        customers := shop'.customers.adjust c.id fun _ => c.moveTo ⟨s'.id, a'.number⟩ } :=
    { h with
      stores := Alike.relist h.stores c s'.id
      customers := h.customers.adjust c.id fun _ _ _ => rfl }
  have hheld := hmoved.baskets.find? (c.moveTo ⟨s'.id, a'.number⟩).basket
  unfold heldBasket
  dsimp only at hheld ⊢
  generalize shop.baskets.find? _ = x at hheld
  generalize shop'.baskets.find? _ = y at hheld
  -- A basket is held in both shops or in none.
  cases hheld with
  | none => exact agree_pure ⟨rfl, hmoved⟩
  | some hb => exact agree_write rfl (hmoved.carryBasket hb s'.id)

theorem customerBasket_agree (h : shop.Alike shop') (customer : Option String) :
    (customerBasket action customer).Agree shop (customerBasket action customer) shop'
      (Done Basket.Alike) := by
  unfold customerBasket
  refine agree_bind_look (theCustomer_agree action h customer) ?_
  rintro c _ rfl
  cases c.basket with
  | none => exact agree_fail h _ _
  | some b => exact (theBasket_agree action h (some b)).done h

/-- A refusal of what is bound to another is the same refusal in both shops. -/
theorem agree_unless_other (h : shop.Alike shop') {α β : Type} {Q : α → Shop → β → Shop → Prop}
    (x : Option String) (own : String) (cause : String → Cause) {rest : Unit → Act α}
    {rest' : Unit → Act β} (hrest : (rest ()).Agree shop (rest' ()) shop' Q) :
    (match x with
      | some y => if y ≠ own then fail action (cause y) >>= rest else rest ()
      | none => rest ()).Agree shop
      (match x with
      | some y => if y ≠ own then fail action (cause y) >>= rest' else rest' ()
      | none => rest' ()) shop' Q := by
  cases x with
  | none => exact hrest
  | some y =>
      dsimp only
      split
      · exact agree_bind_fail h action (cause y) rest rest'
      · exact hrest

theorem assignBasket_agree (h : shop.Alike shop') (customer basket : Option String) :
    (assignBasket action customer basket).Agree shop (assignBasket action customer basket) shop'
      (Done Basket.Alike) := by
  unfold assignBasket
  refine agree_bind_look (theCustomer_agree action h customer) ?_
  rintro c _ rfl
  refine agree_bind_look (theBasket_agree action h basket) fun b b' hb => ?_
  rw [hb.customer, hb.id]
  refine agree_unless_other action h b'.customer c.id _ ?_
  refine agree_unless_other action h c.basket b'.id _ ?_
  -- Customer and basket are bound, and the basket is carried if the customer is somewhere.
  have hbound : Alike
      { shop with
        customers := shop.customers.adjust c.id fun c => { c with basket := some b'.id }
        baskets := shop.baskets.adjust b'.id fun b => { b with customer := some c.id } }
      { shop' with
        customers := shop'.customers.adjust c.id fun c => { c with basket := some b'.id }
        baskets := shop'.baskets.adjust b'.id fun b => { b with customer := some c.id } } :=
    { h with
      customers := h.customers.adjust c.id fun _ _ hc => by rw [hc]
      baskets := h.baskets.adjust b'.id fun _ _ hv => { hv with customer := rfl } }
  refine agree_bind_modify ?_
  cases c.spot with
  | none => exact (theBasket_agree action hbound basket).done hbound
  | some spot =>
      have hcarried := hbound.carryBasket hb spot.store
      exact agree_bind_modify ((theBasket_agree action hcarried basket).done hcarried)

/-- A quantity that is not positive is refused in both shops. -/
theorem agree_positive (h : shop.Alike shop') {α β : Type} {Q : α → Shop → β → Shop → Prop}
    (quantity : Option Int) {rest : Int → Act α} {rest' : Int → Act β}
    (hrest : ∀ q, (rest q).Agree shop (rest' q) shop' Q) :
    (match quantity with
      | some q =>
        if q ≤ 0 then fail action (.quantityNotPositive quantity) >>= rest else pure q >>= rest
      | none => fail action (.quantityNotPositive none) >>= rest).Agree shop
      (match quantity with
      | some q =>
        if q ≤ 0 then fail action (.quantityNotPositive quantity) >>= rest' else pure q >>= rest'
      | none => fail action (.quantityNotPositive none) >>= rest') shop' Q := by
  cases quantity with
  | none => exact agree_bind_fail h _ _ _ _
  | some q =>
      dsimp only
      split
      · exact agree_bind_fail h _ _ _ _
      · exact agree_bind_pure (hrest q)

theorem checkTogether_onlyChecks (b : Basket) (i : Inventory) (spot : Option AisleSpot) :
    (checkTogether action b i spot).OnlyChecks := by
  unfold checkTogether
  split
  · exact onlyChecks_fail _ _
  · exact onlyChecks_fail _ _
  · exact onlyChecks_unless _ action _ _

theorem checkTogether_eq {b b' : Basket} (hb : b.Alike b') (i : Inventory)
    (spot : Option AisleSpot) :
    checkTogether action b i spot = checkTogether action b' i spot := by
  unfold checkTogether
  rw [hb.customer, hb.id]

/-- The last steps of a trade: a count is changed, and then a basket. -/
theorem agree_trade (h : shop.Alike shop') (i : Inventory) (delta : Int)
    {x x' : Except Fault Basket} (hx : SameEnd Basket.Alike x x') :
    (do
      let i ← Act.ofExcept (i.change delta action)
      modify (·.putInventory i)
      let b ← Act.ofExcept x
      modify (·.putBasket b)
      return b : Act Basket).Agree shop
    (do
      let i ← Act.ofExcept (i.change delta action)
      modify (·.putInventory i)
      let b ← Act.ofExcept x'
      modify (·.putBasket b)
      return b : Act Basket) shop' (Done Basket.Alike) := by
  refine agree_bind_check h (onlyChecks_ofExcept _) fun i' => ?_
  refine agree_bind_modify ?_
  have hput := h.putInventory i'
  refine agree_bind_ofExcept hput hx fun b b' hb => ?_
  exact agree_write hb (hput.putBasket hb)

/-- Answers of the same kind are alike if the records in them are. -/
theorem agree_answer {α β : Type} {R : α → β → Prop} {act : Act α} {act' : Act β} {g : α → Reply}
    {g' : β → Reply} (hact : act.Agree shop act' shop' (Done R))
    (hg : ∀ a b, R a b → (g a).Alike (g' b)) :
    (g <$> act).Agree shop (g' <$> act') shop' (Done Reply.Alike) :=
  agree_map hact fun a _ b _ h => ⟨hg a b h.1, h.2⟩

/-- Records that are the same make the same answer. -/
theorem agree_same {α : Type} {act act' : Act α} (g : α → Reply)
    (hact : act.Agree shop act' shop' (Done (· = ·))) :
    (g <$> act).Agree shop (g <$> act') shop' (Done Reply.Alike) := by
  refine agree_answer hact ?_
  rintro a _ rfl
  exact .same (g a)

theorem showAisle_agree (h : shop.Alike shop') (store number : Option String) :
    (do
      let s ← theStore action store
      Reply.aisle <$> Act.ofExcept (s.getAisle number)).Agree shop
    (do
      let s ← theStore action store
      Reply.aisle <$> Act.ofExcept (s.getAisle number)) shop' (Done Reply.Alike) := by
  refine agree_bind_look (theStore_agree action h store) fun s s' hs => ?_
  exact agree_answer ((agree_ofExcept h (hs.getAisle number)).done h) fun _ _ => .aisle

theorem showShelf_agree (h : shop.Alike shop') (store number id : Option String) :
    (do
      let s ← theStore action store
      Reply.shelf <$> Act.ofExcept (s.getShelf number id)).Agree shop
    (do
      let s ← theStore action store
      Reply.shelf <$> Act.ofExcept (s.getShelf number id)) shop' (Done Reply.Alike) := by
  refine agree_bind_look (theStore_agree action h store) fun s s' hs => ?_
  exact agree_same _ ((agree_ofExcept h (hs.getShelf number id)).done h)

/-- The lines about alike replies can be written or not, both of them. -/
theorem recorded_sameEnd {r r' : Reply} (h : r.Alike r') (op : Operation) :
    SameEnd Reply.Alike (op.recorded r) (op.recorded r') := by
  unfold Operation.recorded
  rw [h.logged_eq op]
  split
  · exact .ok h
  · exact .error _

section Filed

variable (hf : Filing shop.stores)
include hf

theorem resolve_agree (h : shop.Alike shop') (p : String) (spot : Option AisleSpot) :
    (resolve action p spot).Agree shop (resolve action p spot) shop' (Seen (· = ·) shop shop') := by
  unfold resolve
  refine agree_bind_get ?_
  rw [h.choose_eq hf]
  cases choose (shop'.stockOf p) spot with
  | none => exact agree_fail h _ _
  | some i => exact agree_pure ⟨rfl, rfl, rfl⟩

theorem takeIntoBasket_agree (h : shop.Alike shop') (basket product : Option String)
    (quantity : Option Int) :
    (takeIntoBasket action basket product quantity).Agree shop
      (takeIntoBasket action basket product quantity) shop' (Done Basket.Alike) := by
  unfold takeIntoBasket
  refine agree_bind_look (theBasket_agree action h basket) fun b b' hb => ?_
  refine agree_positive action h quantity fun q => ?_
  cases product with
  | none => exact agree_bind_fail h _ _ _ _
  | some p =>
      -- The owner stands at the same place, so the same inventory is chosen.
      refine agree_bind_pure (agree_bind_get ?_)
      dsimp only
      rw [h.standing_eq hb]
      refine agree_bind_look (resolve_agree action hf h p _) ?_
      rintro i _ rfl
      rw [checkTogether_eq action hb]
      refine agree_bind_check h (checkTogether_onlyChecks action b' i _) fun _ => ?_
      split
      · exact agree_bind_fail h _ _ _ _
      · exact agree_trade action h i (-q) (hb.add p q)

theorem putBackFromBasket_agree (h : shop.Alike shop') (basket product : Option String)
    (quantity : Option Int) :
    (putBackFromBasket action basket product quantity).Agree shop
      (putBackFromBasket action basket product quantity) shop' (Done Basket.Alike) := by
  unfold putBackFromBasket
  refine agree_bind_look (theBasket_agree action h basket) fun b b' hb => ?_
  rw [hb.lines.find?_eq, hb.id]
  cases product with
  | none => exact agree_bind_fail h _ _ _ _
  | some p =>
      rw [Keyed.find?_some]
      cases b'.lines.get? p with
      | none => exact agree_bind_fail h _ _ _ _
      | some held =>
          refine agree_bind_pure ?_
          cases quantity with
          | none => exact agree_bind_throw h _ _ _
          | some q =>
              dsimp only
              split
              · exact agree_bind_throw h _ _ _
              · -- The owner stands at the same place, so the same inventory is chosen.
                refine agree_bind_pure (agree_bind_get ?_)
                rw [h.standing_eq hb]
                refine agree_bind_look (resolve_agree action hf h p _) ?_
                rintro i _ rfl
                rw [checkTogether_eq action hb]
                refine agree_bind_check h (checkTogether_onlyChecks action b' i _) fun _ => ?_
                exact agree_trade action h i q (hb.remove p q)

end Filed

section Sound

variable (hs : shop.Sound) (hs' : shop'.Sound)
include hs hs'

/-- Emptying a basket goes through its lines in their order, and yet comes to the same end: both
    runs end in one recount of the shop they began in. -/
theorem emptyBasket_agree (h : shop.Alike shop') (basket : Option String) :
    (emptyBasket action basket).Agree shop (emptyBasket action basket) shop'
      (Done Basket.Alike) := by
  cases hb : shop.baskets.find? basket with
  | none =>
      -- The basket is looked for in vain in both shops.
      have hvain : (theBasket action basket).Agree shop (theBasket action basket) shop'
          (Seen (fun _ _ => False) shop shop') := by
        refine agree_bind_get (agree_found h ?_ action .basket basket)
        have hrel := h.baskets.find? basket
        rw [hb] at hrel ⊢
        generalize shop'.baskets.find? basket = y at hrel ⊢
        cases hrel
        exact .none
      exact agree_bind_look hvain fun _ _ hfalse => hfalse.elim
  | some b =>
      rcases (Keyed.find?_eq_some_iff _ _ _).1 hb with ⟨k, rfl, hb⟩
      rcases h.baskets.get?_some hb with ⟨b', hb', hbb⟩
      rcases emptyBasket_succeeds action hs.filed.floor hs.stocked hb with
        ⟨c, shop₁, hrun, rfl, rfl⟩
      rcases emptyBasket_succeeds action hs'.filed.floor hs'.stocked hb' with
        ⟨c', shop₂, hrun', rfl, rfl⟩
      unfold Agree
      rw [hrun, hrun']
      exact .ok ⟨{ hbb with lines := Keyed.reordered_empty _ }, h.emptied hs.filed.floor hbb⟩

theorem raiseEvent_agree (h : shop.Alike shop') (device event : Option String) :
    (raiseEvent action device event).Agree shop (raiseEvent action device event) shop'
      (Done (· = ·)) := by
  unfold raiseEvent
  refine agree_bind_look (theDevice_agree action hs.filed.floor hs'.filed.floor h device) ?_
  rintro d _ rfl
  exact agree_write rfl { h with events := congrArg (· ++ [_]) h.events }

theorem issueCommand_agree (h : shop.Alike shop') (device command : Option String) :
    (issueCommand action device command).Agree shop (issueCommand action device command) shop'
      (Done (· = ·)) := by
  unfold issueCommand
  refine agree_bind_look (theDevice_agree action hs.filed.floor hs'.filed.floor h device) ?_
  rintro d _ rfl
  split
  · exact agree_bind_fail h _ _ _ _
  · exact agree_write rfl { h with events := congrArg (· ++ [_]) h.events }

theorem adjustInventory_agree (h : shop.Alike shop') (id : Option String) (delta : Int) :
    (adjustInventory action id delta).Agree shop (adjustInventory action id delta) shop'
      (Done (· = ·)) := by
  unfold adjustInventory
  refine agree_bind_look (theInventory_agree action hs.filed.floor hs'.filed.floor h id) ?_
  rintro i _ rfl
  refine agree_bind_check h (onlyChecks_ofExcept _) fun i' => ?_
  exact agree_write rfl (h.putInventory i')

/-- In sound shops that are alike an operation comes to the same end. -/
theorem carryOut_agree (h : shop.Alike shop') (op : Operation) :
    (carryOut op).Agree shop (carryOut op) shop' (Done Reply.Alike) := by
  have hf := hs.filed.floor
  have hf' := hs'.filed.floor
  cases op with
  | provisionStore id name address =>
      exact agree_answer (openStore_agree _ h id name address) fun _ _ => .store
  | showStore id => exact agree_answer ((theStore_agree _ h id).done h) fun _ _ => .store
  | updateStore id description address =>
      exact agree_answer (updateStore_agree _ h id description address) fun _ _ => .store
  | deleteStore id => exact agree_same _ (closeStore_agree _ h id)
  | provisionAisle store number name description location =>
      exact agree_answer (openAisle_agree _ h store number name description location)
        fun _ _ => .aisle
  | showAisle store number => exact showAisle_agree _ h store number
  | provisionShelf store number id name level description temperature =>
      exact agree_same _ (putUpShelf_agree _ h store number id name level description temperature)
  | showShelf store number id => exact showShelf_agree _ h store number id
  | provisionProduct id name description size category price temperature =>
      exact agree_same _ (addProduct_agree _ h id name description size category price temperature)
  | showProduct id => exact agree_same _ ((theProduct_agree _ h id).done h)
  | provisionInventory id store number shelf capacity count product type =>
      exact agree_same _
        (addInventory_agree _ hf hf' h id store number shelf capacity count product type)
  | showInventory id => exact agree_same _ ((theInventory_agree _ hf hf' h id).done h)
  | updateInventory id delta => exact agree_same _ (adjustInventory_agree _ hs hs' h id delta)
  | provisionCustomer id firstName lastName type email account =>
      exact agree_same _ (addCustomer_agree _ h id firstName lastName type email account)
  | showCustomer id => exact agree_same _ ((theCustomer_agree _ h id).done h)
  | updateCustomer id store number => exact agree_same _ (moveCustomer_agree _ h id store number)
  | provisionBasket id => exact agree_answer (addBasket_agree _ h id) fun _ _ => .basket
  | showBasket id => exact agree_answer ((theBasket_agree _ h id).done h) fun _ _ => .basket
  | getCustomerBasket customer =>
      exact agree_answer (customerBasket_agree _ h customer) fun _ _ => .basket
  | assignCustomerBasket customer basket =>
      exact agree_answer (assignBasket_agree _ h customer basket) fun _ _ => .basket
  | addBasketProduct basket product quantity =>
      exact agree_answer (takeIntoBasket_agree _ hf h basket product quantity) fun _ _ => .basket
  | removeBasketProduct basket product quantity =>
      exact agree_answer (putBackFromBasket_agree _ hf h basket product quantity)
        fun _ _ => .basket
  | clearBasket basket =>
      exact agree_answer (emptyBasket_agree _ hs hs' h basket) fun _ _ => .basket
  | provisionDevice id name type store number =>
      exact agree_same _ (installDevice_agree _ hf hf' h id name type store number)
  | showDevice id => exact agree_same _ ((theDevice_agree _ hf hf' h id).done h)
  | raiseEvent device event => exact agree_same _ (raiseEvent_agree _ hs hs' h device event)
  | issueCommand device command =>
      exact agree_same _ (issueCommand_agree _ hs hs' h device command)

theorem attempt_agree (h : shop.Alike shop') (token : Option String) (op : Operation) :
    (attempt token op).Agree shop (attempt token op) shop' (Done Reply.Alike) := by
  unfold attempt checkToken
  split
  · exact agree_bind_pure (carryOut_agree hs hs' h op)
  · exact agree_bind_fail h _ _ _ _

theorem perform_agree (h : shop.Alike shop') (token : Option String) (op : Operation) :
    (perform token op).Agree shop (perform token op) shop' (Done Reply.Alike) := by
  unfold perform
  refine agree_bind (attempt_agree hs hs' h token op) ?_
  rintro r s r' s' ⟨hr, halike⟩
  exact (agree_ofExcept halike (recorded_sameEnd hr op)).done halike

end Sound

end Shop

end Shopfloor
