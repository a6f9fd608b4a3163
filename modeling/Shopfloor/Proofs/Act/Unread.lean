import Shopfloor.Proofs.Act.Triple
import Shopfloor.Shop.Operation
/-!
# The Log Is Not Read

What an act does to the shop does not depend on what devices have said.

The log lies beside the records. Messages are written into it, but no act looks
at it, so from two shops that differ in the log only an act goes on to two
shops that differ in the log only, and it ends the same way in both. `Unread`
says this of an act. It is composed as acts are: an act that looks at the shop
has to look at something that is the same with another log, and an act that
changes the shop has to change the records in the same way.

## Main definitions

* `Shop.logged`: A shop with another log.
* `Act.Unread`: An act that goes the same way whatever the log is.

## Theorems

* `unread_bind`, `unread_bind_get`, `unread_modify`: How acts are composed.
* `carryOut_unread`, `perform_unread`: No operation reads the log.
-/

namespace Shopfloor

/-- A shop with another log. -/
def Shop.logged (shop : Shop) (log : List DeviceEvent) : Shop := { shop with events := log }

namespace Act

variable {α β : Type}

/-- The act goes the same way whatever the log is: it ends as it does, and the records afterwards are
    the same. -/
def Unread (act : Act α) : Prop :=
  ∀ shop log, ∃ log',
    act.runIn (shop.logged log) = ((act.runIn shop).1, (act.runIn shop).2.logged log')

theorem unread_pure (a : α) : (pure a : Act α).Unread := fun _ log => ⟨log, rfl⟩

theorem unread_throw (e : Fault) : (throw e : Act α).Unread := fun _ log => ⟨log, rfl⟩

theorem unread_fail (action : String) (c : Cause) : (fail action c : Act α).Unread :=
  unread_throw _

theorem unread_ofExcept (x : Except Fault α) : (ofExcept x).Unread := fun _ log => ⟨log, rfl⟩

theorem unread_bind {x : Act β} {f : β → Act α} (hx : x.Unread) (hf : ∀ b, (f b).Unread) :
    (x >>= f).Unread := by
  intro shop log
  rcases hx shop log with ⟨log₁, hlog₁⟩
  rw [runIn_bind, runIn_bind, hlog₁]
  rcases x.runIn shop with ⟨r, shop₁⟩
  cases r with
  | ok b => exact hf b shop₁ log₁
  | error e => exact ⟨log₁, rfl⟩

/-- Whatever was to come after a failure does not come. -/
theorem unread_bind_throw (e : Fault) (f : β → Act α) : (throw e >>= f).Unread :=
  fun _ log => ⟨log, rfl⟩

theorem unread_bind_fail (action : String) (c : Cause) (f : β → Act α) :
    (fail action c >>= f).Unread :=
  unread_bind_throw _ f

/-- An act may look at whatever does not change with the log. -/
theorem unread_bind_get {f : Shop → Act α} (hlook : ∀ shop log, f (shop.logged log) = f shop)
    (hf : ∀ shop, (f shop).Unread) : (get >>= f).Unread := by
  intro shop log
  change ∃ log', (f (shop.logged log)).runIn (shop.logged log) = _
  rw [hlook]
  exact hf shop shop log

theorem unread_modify {f : Shop → Shop}
    (hf : ∀ shop log, ∃ log', f (shop.logged log) = (f shop).logged log') :
    (modify f : Act PUnit).Unread := by
  intro shop log
  rcases hf shop log with ⟨log', hlog'⟩
  exact ⟨log', congrArg (Prod.mk _) hlog'⟩

theorem unread_map {g : α → β} {act : Act α} (h : act.Unread) : (g <$> act).Unread := by
  rw [map_eq_pure_bind]
  exact unread_bind h fun a => unread_pure _

/-- A change and an answer. -/
theorem unread_write {f : Shop → Shop} {a : α}
    (hf : ∀ shop log, ∃ log', f (shop.logged log) = (f shop).logged log') :
    (modify f >>= fun _ => pure a : Act α).Unread :=
  unread_bind (unread_modify hf) fun _ => unread_pure a

/-- A check that ends the act unless it is passed. -/
theorem unread_unless {c : Prop} [Decidable c] {action : String} {cause : Cause}
    {rest : Unit → Act α} (h : (rest ()).Unread) :
    (if c then fail action cause >>= rest else rest ()).Unread := by
  split
  · exact unread_bind_fail action cause rest
  · exact h

theorem unread_found (action : String) (noun : Noun) (id : Option String) (x : Option α) :
    (found action noun id x).Unread := by
  cases x with
  | some a => exact unread_pure a
  | none => exact unread_fail _ _

theorem unread_forM {f : β → Act PUnit} (hf : ∀ b, (f b).Unread) (l : List β) :
    (l.forM f).Unread := by
  induction l with
  | nil => exact unread_pure _
  | cons b l ih => exact unread_bind (hf b) fun _ => ih

end Act

namespace Shop

open Act

variable (action : String)

/-- What is looked up among the records. -/
theorem look_unread {α : Type} {look : Shop → Option α} (noun : Noun) (id : Option String)
    (hlook : ∀ shop log, look (logged shop log) = look shop) :
    (get >>= fun shop => found action noun id (look shop)).Unread :=
  unread_bind_get (fun shop log => congrArg _ (hlook shop log)) fun _ => unread_found _ _ _ _

theorem theStore_unread (id : Option String) : (theStore action id).Unread :=
  look_unread action .store id fun _ _ => rfl

theorem theProduct_unread (id : Option String) : (theProduct action id).Unread :=
  look_unread action .product id fun _ _ => rfl

theorem theInventory_unread (id : Option String) : (theInventory action id).Unread :=
  look_unread action .inventory id fun _ _ => rfl

theorem theCustomer_unread (id : Option String) : (theCustomer action id).Unread :=
  look_unread action .customer id fun _ _ => rfl

theorem theBasket_unread (id : Option String) : (theBasket action id).Unread :=
  look_unread action .basket id fun _ _ => rfl

theorem theDevice_unread (id : Option String) : (theDevice action id).Unread :=
  look_unread action .device id fun _ _ => rfl

/-! ### Provisioning -/

theorem openStore_unread (id name address : Option String) :
    (openStore action id name address).Unread := by
  unfold openStore
  refine unread_bind_get (fun _ _ => rfl) fun shop => unread_unless ?_
  dsimp only
  split
  · exact unread_write fun _ log => ⟨log, rfl⟩
  · exact unread_throw _

/-- A place that is read, if it is said. -/
theorem place_unread {α : Type} {location : Option String} {rest : Option AisleLocation → Act α}
    (h : ∀ place, (rest place).Unread) :
    (match location with
      | some l =>
        (some <$> Act.ofExcept (Choice.require (α := AisleLocation) action (some l))) >>= rest
      | none => pure none >>= rest).Unread := by
  cases location with
  | none => exact unread_bind (unread_pure none) h
  | some l => exact unread_bind (unread_map (unread_ofExcept _)) h

theorem openAisle_unread (store number name description location : Option String) :
    (openAisle action store number name description location).Unread := by
  unfold openAisle
  refine place_unread action fun place => unread_bind (theStore_unread action store) fun s => ?_
  split
  · exact unread_bind (unread_ofExcept _) fun s => unread_write fun _ log => ⟨log, rfl⟩
  · exact unread_throw _

theorem putUpShelf_unread (store number id name level description temperature : Option String) :
    (putUpShelf action store number id name level description temperature).Unread := by
  unfold putUpShelf
  refine unread_bind (unread_ofExcept _) fun height =>
    unread_bind (unread_ofExcept _) fun warmth => ?_
  refine unread_bind (theStore_unread action store) fun s => ?_
  refine unread_bind (unread_ofExcept _) fun aisle => ?_
  split
  · exact unread_bind (unread_ofExcept _) fun aisle => unread_write fun _ log => ⟨log, rfl⟩
  · exact unread_throw _

theorem chargeable_unread (price : Option Binary64) : (chargeable action price).Unread := by
  unfold chargeable
  split
  · split
    · exact unread_fail _ _
    · exact unread_pure _
  · exact unread_fail _ _

theorem addProduct_unread (id name description size category : Option String)
    (price : Option Binary64) (temperature : Option String) :
    (addProduct action id name description size category price temperature).Unread := by
  unfold addProduct
  refine unread_bind (chargeable_unread action price) fun x => ?_
  refine unread_bind (unread_ofExcept _) fun warmth => ?_
  refine unread_bind_get (fun _ _ => rfl) fun shop => unread_unless ?_
  dsimp only
  split
  · exact unread_write fun _ log => ⟨log, rfl⟩
  · exact unread_throw _

theorem startingCount_unread (count : Option Int) : (startingCount action count).Unread := by
  unfold startingCount
  split
  · split
    · exact unread_fail _ _
    · exact unread_pure _
  · exact unread_fail _ _

theorem roomFor_unread (capacity : Option Int) (count : Int) :
    (roomFor action capacity count).Unread := by
  unfold roomFor
  split
  · split
    · exact unread_fail _ _
    · exact unread_pure _
  · exact unread_fail _ _

theorem inventoryType_unread (type : Option String) : (inventoryType action type).Unread := by
  unfold inventoryType
  split
  · exact unread_ofExcept _
  · exact unread_pure _

theorem addInventory_unread (id store number shelf : Option String) (capacity count : Option Int)
    (product type : Option String) :
    (addInventory action id store number shelf capacity count product type).Unread := by
  unfold addInventory
  refine unread_bind (theStore_unread action store) fun s => ?_
  refine unread_bind (unread_ofExcept _) fun aisle => unread_bind (unread_ofExcept _) fun board => ?_
  refine unread_bind (startingCount_unread action count) fun units => ?_
  refine unread_bind (roomFor_unread action capacity units) fun most => ?_
  refine unread_bind_get (fun _ _ => rfl) fun shop => ?_
  dsimp only
  split
  · refine unread_bind (unread_pure _) fun item => ?_
    refine unread_bind (inventoryType_unread action type) fun sort => ?_
    refine unread_bind_get (fun _ _ => rfl) fun shop => unread_unless ?_
    split
    · exact unread_bind (unread_ofExcept _) fun s => unread_write fun _ log => ⟨log, rfl⟩
    · exact unread_throw _
  · exact unread_bind_fail _ _ _

theorem addCustomer_unread (id firstName lastName type email account : Option String) :
    (addCustomer action id firstName lastName type email account).Unread := by
  unfold addCustomer
  refine unread_bind (unread_ofExcept _) fun sort => ?_
  refine unread_bind_get (fun _ _ => rfl) fun shop => unread_unless ?_
  dsimp only
  split
  · exact unread_write fun _ log => ⟨log, rfl⟩
  · exact unread_throw _

theorem addBasket_unread (id : Option String) : (addBasket action id).Unread := by
  unfold addBasket
  refine unread_bind_get (fun _ _ => rfl) fun shop => unread_unless ?_
  dsimp only
  split
  · exact unread_write fun _ log => ⟨log, rfl⟩
  · exact unread_throw _

theorem installDevice_unread (id name : Option String) (type : String)
    (store number : Option String) : (installDevice action id name type store number).Unread := by
  unfold installDevice
  refine unread_bind (unread_ofExcept _) fun kind => ?_
  refine unread_bind (theStore_unread action store) fun s => ?_
  refine unread_bind (unread_ofExcept _) fun aisle => ?_
  refine unread_bind_get (fun _ _ => rfl) fun shop => unread_unless ?_
  dsimp only
  split
  · exact unread_bind (unread_ofExcept _) fun s => unread_write fun _ log => ⟨log, rfl⟩
  · exact unread_throw _

/-! ### Movement -/

theorem carryBasket_logged (shop : Shop) (log : List DeviceEvent) (b : Basket) (store : String) :
    (shop.logged log).carryBasket b store = (shop.carryBasket b store).logged log := by
  unfold carryBasket
  split
  · rfl
  · -- Where the basket was taken from does not depend on the log.
    dsimp only
    split
    · rw [apply_ite (logged · log)]
      rfl
    · rw [apply_ite (logged · log)]
      rfl

theorem moveCustomer_unread (id store number : Option String) :
    (moveCustomer action id store number).Unread := by
  unfold moveCustomer
  refine unread_bind (theCustomer_unread action id) fun c => ?_
  refine unread_bind (theStore_unread action store) fun s => ?_
  refine unread_bind (unread_ofExcept _) fun aisle => ?_
  -- The basket is looked up in the shop in which the customer has moved.
  refine unread_bind (unread_modify fun _ log => ⟨log, rfl⟩) fun _ => ?_
  refine unread_bind_get (fun _ _ => rfl) fun shop => ?_
  dsimp only
  split
  · exact unread_write fun shop log => ⟨log, carryBasket_logged shop log _ _⟩
  · exact unread_pure _

theorem customerBasket_unread (id : Option String) : (customerBasket action id).Unread := by
  unfold customerBasket
  refine unread_bind (theCustomer_unread action id) fun c => ?_
  split
  · exact unread_fail _ _
  · exact theBasket_unread action _

/-- What is bound to this one already, or to nobody, is not refused as bound to another. -/
theorem unread_unless_other {α : Type} {x : Option String} {own : String} {cause : String → Cause}
    {rest : Unit → Act α} (h : (rest ()).Unread) :
    (match x with
      | some y => if y ≠ own then Act.fail action (cause y) >>= rest else rest ()
      | none => rest ()).Unread := by
  cases x with
  | none => exact h
  | some y => exact unread_unless h

theorem assignBasket_unread (customer basket : Option String) :
    (assignBasket action customer basket).Unread := by
  unfold assignBasket
  refine unread_bind (theCustomer_unread action customer) fun c => ?_
  refine unread_bind (theBasket_unread action basket) fun b => ?_
  refine unread_unless_other action (unread_unless_other action ?_)
  refine unread_bind (unread_modify fun _ log => ⟨log, rfl⟩) fun _ => ?_
  split
  · refine unread_bind (unread_modify fun shop log => ⟨log, carryBasket_logged shop log _ _⟩) ?_
    exact fun _ => theBasket_unread action basket
  · exact theBasket_unread action basket

theorem updateStore_unread (id description address : Option String) :
    (updateStore action id description address).Unread := by
  unfold updateStore
  exact unread_bind (theStore_unread action id) fun s => unread_write fun _ log => ⟨log, rfl⟩

theorem closeStore_unread (id : Option String) : (closeStore action id).Unread := by
  unfold closeStore
  exact unread_bind (theStore_unread action id) fun s => unread_modify fun _ log => ⟨log, rfl⟩

/-! ### Trade -/

theorem resolve_unread (product : String) (spot : Option AisleSpot) :
    (resolve action product spot).Unread := by
  unfold resolve
  refine unread_bind_get (fun _ _ => rfl) fun shop => ?_
  split
  · exact unread_pure _
  · exact unread_fail _ _

theorem checkTogether_unread (b : Basket) (i : Inventory) (spot : Option AisleSpot) :
    (checkTogether action b i spot).Unread := by
  unfold checkTogether
  split
  · exact unread_fail _ _
  · exact unread_fail _ _
  · split
    · exact unread_fail _ _
    · exact unread_pure _

theorem takeIntoBasket_unread (basket product : Option String) (quantity : Option Int) :
    (takeIntoBasket action basket product quantity).Unread := by
  unfold takeIntoBasket
  refine unread_bind (theBasket_unread action basket) fun b => ?_
  dsimp only
  split
  · split
    · exact unread_bind_fail _ _ _
    · refine unread_bind (unread_pure _) fun q => ?_
      split
      · -- Quantity and product are known.
        refine unread_bind (unread_pure _) fun p => unread_bind_get (fun _ _ => rfl) fun shop => ?_
        refine unread_bind (resolve_unread action p _) fun i => ?_
        refine unread_bind (checkTogether_unread action b i _) fun _ => unread_unless ?_
        refine unread_bind (unread_ofExcept _) fun i => ?_
        refine unread_bind (unread_modify fun _ log => ⟨log, rfl⟩) fun _ => ?_
        exact unread_bind (unread_ofExcept _) fun b => unread_write fun _ log => ⟨log, rfl⟩
      · exact unread_bind_fail _ _ _
  · exact unread_bind_fail _ _ _

theorem putBackFromBasket_unread (basket product : Option String) (quantity : Option Int) :
    (putBackFromBasket action basket product quantity).Unread := by
  unfold putBackFromBasket
  refine unread_bind (theBasket_unread action basket) fun b => ?_
  dsimp only
  split
  · refine unread_bind (unread_pure _) fun held => ?_
    split
    · split
      · exact unread_bind_throw _ _
      · refine unread_bind (unread_pure _) fun q => unread_bind_get (fun _ _ => rfl) fun shop => ?_
        refine unread_bind (resolve_unread action _ _) fun i => ?_
        refine unread_bind (checkTogether_unread action b i _) fun _ => ?_
        refine unread_bind (unread_ofExcept _) fun i => ?_
        refine unread_bind (unread_modify fun _ log => ⟨log, rfl⟩) fun _ => ?_
        exact unread_bind (unread_ofExcept _) fun b => unread_write fun _ log => ⟨log, rfl⟩
    · exact unread_bind_throw _ _
  · exact unread_bind_fail _ _ _

theorem returnLine_unread (spot : Option AisleSpot) (product : String) (quantity : Int) :
    (returnLine action spot product quantity).Unread := by
  unfold returnLine
  refine unread_bind_get (fun _ _ => rfl) fun shop => ?_
  split
  · exact unread_pure _
  · exact unread_bind (unread_ofExcept _) fun i => unread_modify fun _ log => ⟨log, rfl⟩

theorem emptyBasket_unread (basket : Option String) : (emptyBasket action basket).Unread := by
  unfold emptyBasket
  refine unread_bind (theBasket_unread action basket) fun b => ?_
  refine unread_bind_get (fun _ _ => rfl) fun shop => ?_
  refine unread_bind (unread_forM ?_ _) fun _ => unread_write fun _ log => ⟨log, rfl⟩
  rintro ⟨product, quantity⟩
  exact returnLine_unread action _ product quantity

/-! ### Operations -/

theorem checkToken_unread (token : Option String) : (checkToken token action).Unread := by
  unfold checkToken
  split
  · exact unread_pure _
  · exact unread_fail _ _

theorem adjustInventory_unread (id : Option String) (delta : Int) :
    (adjustInventory action id delta).Unread := by
  unfold adjustInventory
  refine unread_bind (theInventory_unread action id) fun i =>
    unread_bind (unread_ofExcept _) fun i => ?_
  exact unread_write fun _ log => ⟨log, rfl⟩

/-- A message goes behind whatever the log holds. -/
theorem publish_unread (e : DeviceEvent) : (publish e).Unread :=
  unread_write fun _ log => ⟨log ++ [e], rfl⟩

theorem raiseEvent_unread (device event : Option String) :
    (raiseEvent action device event).Unread := by
  unfold raiseEvent
  exact unread_bind (theDevice_unread action device) fun d => publish_unread _

theorem issueCommand_unread (device command : Option String) :
    (issueCommand action device command).Unread := by
  unfold issueCommand
  exact unread_bind (theDevice_unread action device) fun d => unread_unless (publish_unread _)

/-- No operation reads the log, once the token has been seen. -/
theorem carryOut_unread (op : Operation) : (carryOut op).Unread := by
  cases op with
  | provisionStore => exact unread_map (openStore_unread _ _ _ _)
  | showStore => exact unread_map (theStore_unread _ _)
  | updateStore => exact unread_map (updateStore_unread _ _ _ _)
  | deleteStore => exact unread_map (closeStore_unread _ _)
  | provisionAisle => exact unread_map (openAisle_unread _ _ _ _ _ _)
  | showAisle => exact unread_bind (theStore_unread _ _) fun s => unread_map (unread_ofExcept _)
  | provisionShelf => exact unread_map (putUpShelf_unread _ _ _ _ _ _ _ _)
  | showShelf => exact unread_bind (theStore_unread _ _) fun s => unread_map (unread_ofExcept _)
  | provisionProduct => exact unread_map (addProduct_unread _ _ _ _ _ _ _ _)
  | showProduct => exact unread_map (theProduct_unread _ _)
  | provisionInventory => exact unread_map (addInventory_unread _ _ _ _ _ _ _ _ _)
  | showInventory => exact unread_map (theInventory_unread _ _)
  | updateInventory => exact unread_map (adjustInventory_unread _ _ _)
  | provisionCustomer => exact unread_map (addCustomer_unread _ _ _ _ _ _ _)
  | showCustomer => exact unread_map (theCustomer_unread _ _)
  | updateCustomer => exact unread_map (moveCustomer_unread _ _ _ _)
  | provisionBasket => exact unread_map (addBasket_unread _ _)
  | showBasket => exact unread_map (theBasket_unread _ _)
  | getCustomerBasket => exact unread_map (customerBasket_unread _ _)
  | assignCustomerBasket => exact unread_map (assignBasket_unread _ _ _)
  | addBasketProduct => exact unread_map (takeIntoBasket_unread _ _ _ _)
  | removeBasketProduct => exact unread_map (putBackFromBasket_unread _ _ _ _)
  | clearBasket => exact unread_map (emptyBasket_unread _ _)
  | provisionDevice => exact unread_map (installDevice_unread _ _ _ _ _ _)
  | showDevice => exact unread_map (theDevice_unread _ _)
  | raiseEvent => exact unread_map (raiseEvent_unread _ _ _)
  | issueCommand => exact unread_map (issueCommand_unread _ _ _)

/-- No operation reads the log. -/
theorem perform_unread (token : Option String) (op : Operation) : (perform token op).Unread := by
  have hattempt : (attempt token op).Unread :=
    unread_bind (checkToken_unread _ token) fun _ => carryOut_unread op
  exact unread_bind hattempt fun reply => unread_ofExcept (op.recorded reply)

end Shop

end Shopfloor
