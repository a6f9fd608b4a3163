import Shopfloor.Proofs.Act.Emptying
import Shopfloor.Proofs.Picking.Conditions
/-!
# What Emptying Comes To

A request to empty a basket that is registered succeeds, and what it does, said
of the records alone.

Units that are put back one by one must be put back where the owner stands.
Emptying asks for less: if the aisle of the owner has no inventory of a product,
or if there is no such aisle, the units go to the first inventory of the product
in any store, and if there is none they are lost. `Shop.Receives` says which one
it is. What does not fit there is lost, too.

An inventory holds one product, so no two lines of a basket share one, and the
counts after all lines are those that each line leaves by itself. Nothing is put
back from a basket without lines, so to empty it again changes nothing.

## Main definitions

* `Shop.Leads`: Of the inventories of a product, the first of all.
* `Shop.Receives`: The inventory that the units of a line go back to.

## Theorems

* `head?_stockOf_eq_some_iff`: The first of the stock leads.
* `choose_standing_eq_some_iff`: What is chosen receives.
* `run_clearing`: A basket that is there is emptied.
* `emptied_of_empty`: Nothing is put back from an empty basket.
* `cleared_exactly`: What a request to empty a basket comes to.
-/

namespace Shopfloor

namespace Shop

/-- Of the inventories of a product, wherever they stand, the one with the least id. -/
structure Leads (shop : Shop) (p : String) (i : Inventory) : Prop where
  keeps : shop.Keeps i
  product : i.product = p
  least : ∀ j, shop.Keeps j → j.product = p → i.id ≤ j.id

/-- The inventory that the units of a product in a basket go back to when it is emptied: the first of
    those in the aisle of the owner, or if there are none, the first of all. -/
def Receives (shop : Shop) (b : Basket) (p : String) (i : Inventory) : Prop :=
  (∃ spot, shop.OwnerIn b spot ∧ shop.Serves p spot i) ∨
    (¬ ∃ spot j, shop.OwnerIn b spot ∧ shop.Offers p spot j) ∧ shop.Leads p i

variable {shop : Shop} {p k : String} {i : Inventory} {b : Basket}

/-! ## Where units go -/

/-- The first inventory of a product is one only. -/
theorem Leads.unique (hf : Filing shop.stores) {j : Inventory} (hi : shop.Leads p i)
    (hj : shop.Leads p j) : i = j :=
  hi.keeps.eq_of_id_eq hf hj.keeps
    (String.le_antisymm (hi.least j hj.keeps hj.product) (hj.least i hi.keeps hi.product))

/-- The stock of a product begins with the inventory that leads. -/
theorem head?_stockOf_eq_some_iff (hf : Filing shop.stores) (p : String) (i : Inventory) :
    (shop.stockOf p).head? = some i ↔ shop.Leads p i := by
  have hsorted : (shop.stockOf p).Pairwise fun a b => a.id ≤ b.id :=
    pairwise_mergeSort_key Inventory.id _
  have hleads : ∀ j, (shop.stockOf p).head? = some j → shop.Leads p j := by
    intro j hj
    rcases List.head?_eq_some_iff.1 hj with ⟨rest, hstock⟩
    rcases (mem_stockOf_iff hf p j).1 (hstock ▸ List.mem_cons_self) with ⟨hkeeps, hproduct⟩
    refine ⟨hkeeps, hproduct, fun i hi hp => ?_⟩
    have hmem := (mem_stockOf_iff hf p i).2 ⟨hi, hp⟩
    rw [hstock] at hmem hsorted
    rcases List.mem_cons.1 hmem with rfl | hrest
    · exact String.le_refl _
    · exact (List.pairwise_cons.1 hsorted).1 i hrest
  refine ⟨hleads i, fun h => ?_⟩
  -- There is stock, so it begins with something, and that leads as well.
  have hmem := (mem_stockOf_iff hf p i).2 ⟨h.keeps, h.product⟩
  cases hhead : (shop.stockOf p).head? with
  | none =>
      rw [List.head?_eq_none_iff.1 hhead] at hmem
      cases hmem
  | some j => rw [(hleads j hhead).unique hf h]

/-- Where the place has no inventory of a product, the first of all is chosen. -/
theorem choose_of_not_offers (hf : Filing shop.stores) {place : Option AisleSpot}
    (h : ¬ ∃ spot j, place = some spot ∧ shop.Offers p spot j) :
    choose (shop.stockOf p) place = (shop.stockOf p).head? := by
  unfold choose
  cases place with
  | none => rfl
  | some spot =>
      have hnone : (shop.stockOf p).find? (fun i => i.spot.inAisle == spot) = none := by
        refine List.find?_eq_none.2 fun j hj hin => h ⟨spot, j, rfl, ?_⟩
        rcases (mem_stockOf_iff hf p j).1 hj with ⟨hkeeps, hproduct⟩
        exact ⟨hkeeps, hproduct, beq_iff_eq.1 hin⟩
      rw [Option.bind_some, hnone]

/-- The inventory that is chosen for a basket is the one that receives. -/
theorem choose_standing_eq_some_iff (hf : Filing shop.stores)
    (hnamed : ∀ c r, shop.customers.get? c = some r → c ≠ "") (b : Basket) (p : String)
    (i : Inventory) :
    choose (shop.stockOf p) (shop.standing b) = some i ↔ shop.Receives b p i := by
  unfold Receives
  simp only [← standing_eq_some_iff hnamed]
  by_cases hoffers : ∃ spot j, shop.standing b = some spot ∧ shop.Offers p spot j
  · -- Something is there, and it is among what is there that is chosen.
    have hnotleads : ¬ ((¬ ∃ spot j, shop.standing b = some spot ∧ shop.Offers p spot j) ∧
        shop.Leads p i) := fun h => h.1 hoffers
    rw [or_iff_left hnotleads]
    rcases hoffers with ⟨spot, j, hspot, hj⟩
    rw [hspot]
    constructor
    · intro h
      rcases choose_of_offers hf hj with ⟨j', hj', hin⟩
      rw [hj', Option.some.injEq] at h
      subst h
      exact ⟨spot, rfl, serves_of_choose hf hj' hin⟩
    · rintro ⟨spot', hspot', hserves⟩
      rw [Option.some.injEq] at hspot'
      subst hspot'
      exact choose_of_serves hf hserves
  · -- Nothing is there, so nothing serves there, and the first of all is chosen.
    have hnotserves : ¬ ∃ spot, shop.standing b = some spot ∧ shop.Serves p spot i := by
      rintro ⟨spot, hspot, hserves⟩
      exact hoffers ⟨spot, i, hspot, hserves.offers⟩
    rw [or_iff_right hnotserves, choose_of_not_offers hf hoffers, head?_stockOf_eq_some_iff hf]
    exact (and_iff_right hoffers).symm

/-- A product that is in stock has an inventory that receives. -/
theorem exists_receives (hf : Filing shop.stores)
    (hnamed : ∀ c r, shop.customers.get? c = some r → c ≠ "") (b : Basket)
    (h : ∃ i, shop.Keeps i ∧ i.product = p) : ∃ i, shop.Receives b p i := by
  cases hchoose : choose (shop.stockOf p) (shop.standing b) with
  | none => exact absurd h (not_keeps_of_choose_eq_none hf hchoose)
  | some i => exact ⟨i, (choose_standing_eq_some_iff hf hnamed b p i).1 hchoose⟩

/-- What receives the units of a product is an inventory of that product. -/
theorem Receives.product (h : shop.Receives b p i) : i.product = p := by
  rcases h with ⟨spot, -, hserves⟩ | ⟨-, hleads⟩
  · exact hserves.offers.product
  · exact hleads.product

/-! ## What is left -/

/-- A basket that is registered is emptied. -/
theorem run_clearing (hsound : shop.Sound) {token : Option String} (htoken : isToken token = true)
    (hb : shop.baskets.get? k = some b) :
    run token (.clearBasket (some k)) shop =
      (.ok (.basket { b with lines := .empty }), shop.emptied b) := by
  rcases emptyBasket_succeeds "Clear Basket" hsound.filed.floor hsound.stocked hb with
    ⟨b', shop', hrun, rfl, rfl⟩
  rw [run_of_not_countsUnits htoken rfl]
  change (Reply.basket <$> emptyBasket "Clear Basket" (some k)).runIn shop = _
  rw [Act.runIn_map, hrun]

theorem emptied_eq (hsound : shop.Sound) (hb : shop.baskets.get? k = some b) :
    shop.emptied b = { shop.recount (shop.refilled (shop.standing b) b.quantity) with
      baskets := shop.baskets.adjust k fun b => { b with lines := .empty } } := by
  rw [← hsound.adjust_baskets hb (fun b => { b with lines := .empty }) rfl]
  rfl

/-- A basket without lines has nothing to put back. -/
theorem emptied_of_empty (hsound : shop.Sound) (hb : shop.baskets.get? k = some b)
    (hlines : b.lines = .empty) : shop.emptied b = shop := by
  have hunits : b.quantity = fun _ => 0 := by
    funext x
    unfold Basket.quantity
    rw [hlines, Keyed.get?_empty, Option.getD_none]
  have hsame : ({ b with lines := .empty } : Basket) = b := by rw [← hlines]
  unfold emptied
  rw [hunits, restocked_nothing hsound.filed.floor hsound.stocked, hsame,
    hsound.putBasket_self hb]

/-! ## All together -/

/-- What a request to empty a basket comes to, where no customer has the empty id. If the basket is
    registered it succeeds. The basket has no lines then; of each line the units went back to the
    inventory that receives them, as far as there is room, if there is one at all; and nothing else
    has changed. The same request once more changes nothing. -/
theorem cleared_exactly (h : Reachable shop)
    (hnamed : ∀ c r, shop.customers.get? c = some r → c ≠ "") {token : Option String}
    (htoken : isToken token = true) (hb : shop.baskets.get? k = some b) :
    ∃ count : Inventory → Int,
      let reply : Reply := .basket { b with lines := .empty }
      let after : Shop := { shop.recount count with
        baskets := shop.baskets.adjust k fun b => { b with lines := .empty } }
      run token (.clearBasket (some k)) shop = (.ok reply, after) ∧
      (∀ p, (∃ i, shop.Keeps i ∧ i.product = p) → ∃ i, shop.Receives b p i) ∧
      (∀ p q i, b.lines.get? p = some q → shop.Receives b p i →
        count i = i.count + min q (i.capacity - i.count)) ∧
      (∀ i, shop.Keeps i → (∀ p q, b.lines.get? p = some q → ¬ shop.Receives b p i) →
        count i = i.count) ∧
      ∀ token', isToken token' = true →
        run token' (.clearBasket (some k)) after = (.ok reply, after) := by
  have hsound := h.sound
  have hf := hsound.filed.floor
  have hrun := run_clearing hsound htoken hb
  have hshop := emptied_eq hsound hb
  refine ⟨shop.refilled (shop.standing b) b.quantity, hrun.trans ?_,
    fun p hstock => exists_receives hf hnamed b hstock, fun p q i hline hi => ?_,
    fun i hi hnone => ?_, fun token' htoken' => ?_⟩
  · rw [hshop]
  · have hchosen : choose (shop.stockOf i.product) (shop.standing b) = some i :=
      hi.product.symm ▸ (choose_standing_eq_some_iff hf hnamed b p i).2 hi
    rw [refilled_of_chosen hchosen, hi.product, Basket.quantity_of_get? hline]
    rfl
  · by_cases hchosen : choose (shop.stockOf i.product) (shop.standing b) = some i
    · -- It would receive, so there is no line of its product.
      have hreceives := (choose_standing_eq_some_iff hf hnamed b _ i).1 hchosen
      have hnothing : b.quantity i.product = 0 := by
        unfold Basket.quantity
        cases hline : b.lines.get? i.product with
        | none => rfl
        | some q => exact absurd hreceives (hnone _ q hline)
      exact refilled_eq_count hsound.stocked hi hnothing
    · exact refilled_of_ne hchosen
  · -- What is left is a sound shop in which the basket has no lines.
    have hsound' := hsound.run token (.clearBasket (some k))
    rw [hrun, hshop] at hsound'
    have hb' : (shop.baskets.adjust k fun b => { b with lines := .empty }).get? k =
        some { b with lines := .empty } := by
      rw [Keyed.get?_adjust, if_pos rfl, hb]
      rfl
    exact (run_clearing hsound' htoken' hb').trans
      (congrArg (Prod.mk _) (emptied_of_empty hsound' hb' rfl))

/-- The morning, and after it four more units of rye. -/
def busyMorning : List (Option String × Operation) :=
  morning ++ [(some "key", .updateInventory (some "i1") 4)]

/-- Of the three units in the basket one goes back, for which there is room, and two are lost. To
    empty the basket again changes nothing. -/
theorem cleared_after_busyMorning :
    let shop := runAll .empty busyMorning
    let clear (shop : Shop) := (run (some "key") (.clearBasket (some "b1")) shop).2
    (∃ i count, shop.inventory? (some "i1") = some i ∧ i.count = 9 ∧ count i = 10 ∧
      (clear shop).stores = (shop.recount count).stores) ∧ clear (clear shop) = clear shop := by
  intro shop clear
  have hreach : Reachable shop := Reachable.empty.runAll busyMorning
  have htoken : isToken (some "key") = true := by decide +kernel
  have hnamed : ∀ c r, shop.customers.get? c = some r → c ≠ "" :=
    named_of_get?_eq_none (by decide +kernel)
  have hrye : ∃ i, shop.inventory? (some "i1") = some i ∧ shop.Serves "rye" ⟨"north", "1"⟩ i ∧
      i.count = 9 ∧ i.capacity = 10 :=
    exists_serves_of_alone hreach.sound.filed.floor (by decide +kernel) (by decide +kernel)
  rcases hrye with ⟨i, hi, hserves, hcount, hcapacity⟩
  have hbasket : (shop.baskets.get? "b1").map (fun b => (shop.standing b, b.lines.get? "rye")) =
      some (some ⟨"north", "1"⟩, some 3) := by decide +kernel
  rcases Option.map_eq_some_iff.1 hbasket with ⟨b, hb, hlooks⟩
  rcases Prod.mk.inj hlooks with ⟨hstanding, hline⟩
  have howner := (standing_eq_some_iff hnamed b _).1 hstanding
  rcases cleared_exactly hreach hnamed htoken hb with ⟨count, hrun, -, hlines, -, hagain⟩
  have hafter : clear shop = _ := congrArg Prod.snd hrun
  refine ⟨⟨i, count, hi, hcount, ?_, ?_⟩, ?_⟩
  · rw [hlines "rye" 3 i hline (.inl ⟨_, howner, hserves⟩), hcount, hcapacity]
    rfl
  · rw [hafter]
  · rw [hafter]
    exact congrArg Prod.snd (hagain (some "key") htoken)

end Shop

end Shopfloor
