import Shopfloor.Proofs.Keyed.Total
import Shopfloor.Proofs.Reachable
/-!
# The Ledger of Stock

Where the units of a product come from and where they go.

The units of a product are on shelves or in baskets. They are counted by adding
up every inventory of every store and every line of every basket, and the
ledger says what each operation does to this number. Goods enter the shop when
an inventory is placed or its count is changed, and leave it when a count is
changed or a store closes. Taking and putting back moves units between a shelf
and a basket and creates or destroys none.

Emptying a basket is the one operation that can lose units without saying so.
What is beyond the room of the chosen inventory is lost, and so is what no
inventory holds any more. `spill` is exactly this number. That the lines of a
basket do not get into each other's way is known from where emptying is
described as one recount; what is left here is one product at a time.

## Main definitions

* `Shop.shelved`, `Shop.carried`, `Shop.units`: Units on shelves, in baskets, and in all.
* `Shop.spill`: Units that are lost when a basket is emptied.
* `Shop.intake`: What an operation that is carried out adds to the units of a product.
* `Shop.booked`, `Shop.bookings`: What an operation, and what every operation of a run, adds.

## Theorems

* `shelved_putInventory`, `shelved_restocked`: What new counts add.
* `units_putInventory`, `units_taken`, `units_returned`, `units_without`, `units_emptied`: What
  changes of the shop add.
* `Step.units`: What a step adds is what the ledger says.
* `stock_ledger`: The same of every operation and of every run.
* `unit_without_success`: A count that cannot be written is set by a call that fails.
-/

namespace Shopfloor

/-- The units of a product on the shelves of a store. -/
def Store.shelved (s : Store) (p : String) : Int :=
  s.inventory.total fun i => if i.product = p then i.count else 0

namespace Shop

/-- The units of a product on the shelves of all stores. -/
def shelved (shop : Shop) (p : String) : Int := shop.stores.total fun s => s.shelved p

/-- The units of a product in all baskets. -/
def carried (shop : Shop) (p : String) : Int := shop.baskets.total fun b => b.quantity p

/-- The units of a product, on shelves and in baskets. -/
def units (shop : Shop) (p : String) : Int := shop.shelved p + shop.carried p

/-- The units of a product that are lost when a basket is emptied: what the chosen inventory has
    no room for, or all if there is no inventory of the product. -/
def spill (shop : Shop) (b : Basket) (p : String) : Int :=
  match choose (shop.stockOf p) (shop.standing b) with
  | some i => if i.room < b.quantity p then b.quantity p - i.room else 0
  | none => b.quantity p

/-- What an operation that is carried out adds to the units of a product. -/
def intake (shop : Shop) (p : String) : Operation → Int
  | .provisionInventory _ _ _ _ _ count product _ =>
    if product = some p then count.getD 0 else 0
  | .updateInventory id delta =>
    if (shop.inventory? id).map Inventory.product = some p then delta else 0
  | .deleteStore id => -((shop.stores.find? id).elim 0 fun s => s.shelved p)
  | .clearBasket basket => -((shop.baskets.find? basket).elim 0 fun b => shop.spill b p)
  | _ => 0

/-- What is booked for an operation: what it adds to the units of a product if it is carried out,
    whether or not a line can be written about it, and nothing if it is not. -/
def booked (shop : Shop) (p : String) (token : Option String) (op : Operation) : Int :=
  match ((attempt token op).runIn shop).1 with
  | .ok _ => shop.intake p op
  | .error _ => 0

/-- What the operations of a run add to the units of a product, one after the other. -/
def bookings (p : String) : Shop → List (Option String × Operation) → List Int
  | _, [] => []
  | shop, (token, op) :: calls => shop.booked p token op :: bookings p (run token op shop).2 calls

variable {shop shop' : Shop} {p : String}

theorem units_eq_of_eq (hs : shop'.shelved p = shop.shelved p)
    (hc : shop'.carried p = shop.carried p) : shop'.units p = shop.units p := by
  unfold units
  rw [hs, hc]

/-- A store that is written over another adds the difference. -/
theorem shelved_putStore {k : String} {s s' : Store} (hs : shop.stores.get? k = some s)
    (hid : s'.id = k) : (shop.putStore s').shelved p =
      shop.shelved p + (s'.shelved p - s.shelved p) := by
  unfold shelved putStore
  dsimp only
  rw [hid]
  exact Keyed.total_insert _ hs s' _

/-- Writing an inventory back with another count adds the difference, for its product. -/
theorem shelved_putInventory {i : Inventory} (hi : shop.Keeps i) (c : Int) :
    (shop.putInventory { i with count := c }).shelved p =
      shop.shelved p + (if i.product = p then c - i.count else 0) := by
  rcases hi with ⟨s, hs, hget⟩
  unfold shelved putInventory
  dsimp only
  -- One store changes, and in it one inventory.
  rw [Keyed.total_adjust _ hs]
  unfold Store.shelved
  dsimp only
  rw [Keyed.total_adjust _ hget]
  dsimp only
  by_cases hp : i.product = p
  · rw [if_pos hp, if_pos hp, if_pos hp]
    omega
  · rw [if_neg hp, if_neg hp, if_neg hp]
    omega

/-- The units of a product after a recount are settled by the inventories of this product. -/
theorem shelved_recount_congr (hf : Filing shop.stores) {n n' : Inventory → Int}
    (h : ∀ i, shop.Keeps i → i.product = p → n i = n' i) :
    (shop.recount n).shelved p = (shop.recount n').shelved p := by
  rw [recount_eq, recount_eq]
  unfold shelved
  dsimp only
  refine Keyed.total_mapValues_congr _ fun x s hs => ?_
  unfold Store.shelved Store.counted
  dsimp only
  refine Keyed.total_mapValues_congr _ fun k i hi => ?_
  unfold Inventory.counted
  dsimp only
  -- Inventories of other products do not count.
  by_cases hp : i.product = p
  · rw [if_pos hp, if_pos hp, h i (keeps_of_get? hf hs hi).1 hp]
  · rw [if_neg hp, if_neg hp]

/-- What is on the shelves after units of every product were put back: of each product as much
    more as the chosen inventory had room for. -/
theorem shelved_restocked (hf : Filing shop.stores) (spot : Option AisleSpot)
    (units : String → Int) :
    (shop.restocked spot units).shelved p = shop.shelved p +
      match choose (shop.stockOf p) spot with
      | some i => shop.refilled spot units i - i.count
      | none => 0 := by
  unfold restocked
  cases hchoose : choose (shop.stockOf p) spot with
  | none =>
      -- No inventory of the product is chosen, so none of them changes.
      have hsame : (shop.recount (shop.refilled spot units)).shelved p =
          (shop.recount Inventory.count).shelved p := by
        refine shelved_recount_congr hf fun i _ hp => refilled_of_ne ?_
        rw [hp, hchoose]
        simp only [reduceCtorEq, ne_eq, not_false_eq_true]
      rw [hsame, recount_count]
      dsimp only
      omega
  | some i =>
      rcases choose_keeps hf hchoose with ⟨hkept, hproduct⟩
      have hone : (shop.recount (shop.refilled spot units)).shelved p =
          (shop.recount fun j => if j = i then shop.refilled spot units i else j.count).shelved
            p := by
        refine shelved_recount_congr hf fun j _ hp => ?_
        by_cases hji : j = i
        · rw [if_pos hji, hji]
        · rw [if_neg hji]
          refine refilled_of_ne fun hcj => ?_
          rw [hp, hchoose, Option.some.injEq] at hcj
          exact hji hcj.symm
      rw [hone, ← putInventory_eq_recount hf hkept, shelved_putInventory hkept, if_pos hproduct]

/-- Writing a basket back adds the difference of what it holds. -/
theorem carried_putBasket {k : String} {b b' : Basket} (hids : shop.baskets.All fun k b => b.id = k)
    (hb : shop.baskets.get? k = some b) (hid : b'.id = b.id) :
    (shop.putBasket b').carried p = shop.carried p + (b'.quantity p - b.quantity p) := by
  unfold carried putBasket
  dsimp only
  rw [hid, hids k b hb]
  exact Keyed.total_adjust _ hb _ _

theorem quantity_insert (lines : Keyed Int) (b : Basket) (x : String) (q : Int) :
    ({ b with lines := lines.insert x q } : Basket).quantity p =
      if p = x then q else ({ b with lines := lines } : Basket).quantity p := by
  unfold Basket.quantity
  dsimp only
  rw [Keyed.get?_insert]
  by_cases hx : p = x
  · rw [if_pos hx, if_pos hx, Option.getD_some]
  · rw [if_neg hx, if_neg hx]

theorem quantity_erase (lines : Keyed Int) (b : Basket) (x : String) :
    ({ b with lines := lines.erase x } : Basket).quantity p =
      if p = x then 0 else ({ b with lines := lines } : Basket).quantity p := by
  unfold Basket.quantity
  dsimp only
  rw [Keyed.get?_erase]
  by_cases hx : p = x
  · rw [if_pos hx, if_pos hx, Option.getD_none]
  · rw [if_neg hx, if_neg hx]

/-- Walking and taking a basket carry units about and leave their number. -/
theorem units_afterMove {c : Customer} {spot : AisleSpot} {s : Store}
    (hids : shop.baskets.All fun k b => b.id = k) (hs : shop.stores.get? spot.store = some s) :
    (shop.afterMove c spot).units p = shop.units p := by
  rw [afterMove_eq hids hs]
  refine units_eq_of_eq ?_ ?_
  · unfold shelved
    dsimp only
    exact Keyed.total_mapValues _ fun _ _ _ => rfl
  · unfold carried
    dsimp only
    refine Keyed.total_mapValues _ fun x b _ => ?_
    split <;> rfl

theorem units_afterAssign {c : Customer} {b : Basket} (hb : shop.baskets.get? b.id = some b)
    (hspot : ∀ spot, c.spot = some spot → ∃ s, shop.stores.get? spot.store = some s) :
    (shop.afterAssign c b).units p = shop.units p := by
  rw [afterAssign_eq hb hspot]
  refine units_eq_of_eq ?_ ?_
  · unfold shelved
    dsimp only
    exact Keyed.total_mapValues _ fun _ _ _ => rfl
  · unfold carried Keyed.adjust
    dsimp only
    refine Keyed.total_mapValues _ fun x b' _ => ?_
    split <;> rfl

/-- A store that is written back with the stock it had adds nothing. -/
theorem units_putStore {k : String} {s s' : Store} (hs : shop.stores.get? k = some s)
    (hid : s'.id = k) (hinventory : s'.inventory = s.inventory) :
    (shop.putStore s').units p = shop.units p := by
  have hsame : s'.shelved p = s.shelved p := by
    unfold Store.shelved
    rw [hinventory]
  have hshelved : (shop.putStore s').shelved p = _ := shelved_putStore hs hid
  exact units_eq_of_eq (by omega) rfl

/-- A new inventory adds its count, for its product. -/
theorem units_addInventory {k i : String} {s : Store} {j : Inventory}
    (hs : shop.stores.get? k = some s) (hid : s.id = k) (hi : s.inventory.get? i = none) :
    (shop.putStore { s with inventory := s.inventory.insert i j }).units p =
      shop.units p + (if j.product = p then j.count else 0) := by
  have hstore : ({ s with inventory := s.inventory.insert i j } : Store).shelved p =
      s.shelved p + (if j.product = p then j.count else 0) :=
    Keyed.total_insert_new _ hi j _
  have hshelved : (shop.putStore { s with inventory := s.inventory.insert i j }).shelved p = _ :=
    shelved_putStore hs hid
  have hcarried : (shop.putStore { s with inventory := s.inventory.insert i j }).carried p =
      shop.carried p := rfl
  unfold units
  rw [hshelved, hstore, hcarried]
  omega

/-- Another count adds the difference, for its product. -/
theorem units_putInventory {i : Inventory} (hi : shop.Keeps i) (c : Int) :
    (shop.putInventory { i with count := c }).units p =
      shop.units p + (if i.product = p then c - i.count else 0) := by
  have hcarried : (shop.putInventory { i with count := c }).carried p = shop.carried p := rfl
  unfold units
  rw [shelved_putInventory hi, hcarried]
  omega

/-- Another count and another basket add what the shelf and the basket gain. -/
theorem units_traded {k : String} {b b' : Basket} {i : Inventory}
    (hids : shop.baskets.All fun k b => b.id = k) (hb : shop.baskets.get? k = some b)
    (hid : b'.id = b.id) (hi : shop.Keeps i) (c : Int) :
    ((shop.putInventory { i with count := c }).putBasket b').units p =
      shop.units p + (if i.product = p then c - i.count else 0) +
        (b'.quantity p - b.quantity p) := by
  have hshelved : ((shop.putInventory { i with count := c }).putBasket b').shelved p =
      (shop.putInventory { i with count := c }).shelved p := rfl
  have hcarried : ((shop.putInventory { i with count := c }).putBasket b').carried p =
      shop.carried p + (b'.quantity p - b.quantity p) :=
    @carried_putBasket (shop.putInventory { i with count := c }) p k b b' hids hb hid
  unfold units
  rw [hshelved, shelved_putInventory hi, hcarried]
  omega

/-- A store that closes takes its stock with it, and no basket holds anything else. -/
theorem units_without {s : Store} (hs : shop.stores.get? s.id = some s) :
    (shop.without s).units p = shop.units p - s.shelved p := by
  have hshelved : (shop.without s).shelved p = shop.shelved p - s.shelved p :=
    Keyed.total_erase _ hs _
  have hcarried : (shop.without s).carried p = shop.carried p := by
    unfold carried without
    dsimp only
    refine Keyed.total_mapValues _ fun x b _ => ?_
    split <;> rfl
  unfold units
  rw [hshelved, hcarried]
  omega

/-- A basket that is emptied loses its units, and the shelf takes what it has room for. -/
theorem units_emptied (hf : Filing shop.stores) (hids : shop.baskets.All fun k b => b.id = k)
    {k : String} {b : Basket} (hb : shop.baskets.get? k = some b) :
    (shop.emptied b).units p = shop.units p - shop.spill b p := by
  have hshelved : (shop.emptied b).shelved p = _ :=
    shelved_restocked (p := p) hf (shop.standing b) b.quantity
  have hcarried : (shop.emptied b).carried p = shop.carried p + (0 - b.quantity p) :=
    @carried_putBasket (shop.restocked (shop.standing b) b.quantity) p k b _ hids hb rfl
  unfold units spill
  rw [hshelved, hcarried]
  cases hchoose : choose (shop.stockOf p) (shop.standing b) with
  | none =>
      dsimp only
      omega
  | some i =>
      have hproduct := (choose_keeps hf hchoose).2
      -- The shelf takes what it has room for; the rest is lost.
      have hgain : shop.refilled (shop.standing b) b.quantity i - i.count =
          min (b.quantity p) i.room := by
        rw [refilled_of_chosen (hproduct.symm ▸ hchoose), hproduct]
        omega
      dsimp only
      rw [hgain]
      split <;> omega

/-- Units that are taken leave the shelf and arrive in the basket. -/
theorem units_taken {k x : String} {b : Basket} {i : Inventory} (q : Int)
    (hids : shop.baskets.All fun k b => b.id = k) (hb : shop.baskets.get? k = some b)
    (hi : shop.Keeps i) (hproduct : i.product = x) :
    ((shop.putInventory { i with count := i.count - q }).putBasket
      { b with lines := b.lines.insert x (b.quantity x + q) }).units p = shop.units p := by
  have hline : ({ b with lines := b.lines.insert x (b.quantity x + q) } : Basket).quantity p =
      if p = x then b.quantity x + q else b.quantity p := quantity_insert _ _ _ _
  rw [units_traded hids hb (by rfl) hi, hline, hproduct]
  by_cases hp : p = x
  · rw [if_pos hp.symm, if_pos hp, hp]
    omega
  · rw [if_neg (fun he => hp he.symm), if_neg hp]
    omega

/-- Units that are put back leave the basket and arrive on the shelf. -/
theorem units_returned {k x : String} {b : Basket} {i : Inventory} {held : Int} (q : Int)
    (hids : shop.baskets.All fun k b => b.id = k) (hb : shop.baskets.get? k = some b)
    (hheld : b.lines.get? x = some held) (hi : shop.Keeps i) (hproduct : i.product = x) :
    ((shop.putInventory { i with count := i.count + q }).putBasket
      { b with lines := if held = q then b.lines.erase x else b.lines.insert x (held - q) }).units
        p = shop.units p := by
  have hline : ({ b with
      lines := if held = q then b.lines.erase x else b.lines.insert x (held - q) } :
        Basket).quantity p = if p = x then held - q else b.quantity p := by
    by_cases hall : held = q
    · rw [if_pos hall, quantity_erase, hall, Int.sub_self]
    · rw [if_neg hall, quantity_insert]
  have hbefore : b.quantity x = held := by
    unfold Basket.quantity
    rw [hheld, Option.getD_some]
  rw [units_traded hids hb (by rfl) hi, hline, hproduct]
  by_cases hp : p = x
  · rw [if_pos hp.symm, if_pos hp, hp, hbefore]
    omega
  · rw [if_neg (fun he => hp he.symm), if_neg hp]
    omega

/-! ## What a step adds -/

/-- What looks only adds nothing. -/
theorem intake_of_query {op : Operation} {r : Reply} (h : shop.query op = some r) :
    shop.intake p op = 0 := by
  cases op <;> first
    | rfl
    | cases h

/-- Goods that are placed come in. -/
theorem intake_provisionInventory (id store number shelf : Option String) (capacity : Option Int)
    (count : Int) (x : String) (type : Option String) :
    shop.intake p (.provisionInventory id store number shelf capacity (some count) (some x) type) =
      if x = p then count else 0 := by
  dsimp only [intake]
  rw [Option.getD_some]
  by_cases hp : x = p
  · rw [if_pos hp, if_pos (congrArg some hp)]
  · rw [if_neg hp, if_neg fun he => hp (Option.some.inj he)]

/-- Goods that are counted anew come in or go out. -/
theorem intake_updateInventory {id : Option String} {i : Inventory}
    (hi : shop.inventory? id = some i)
    (delta : Int) :
    shop.intake p (.updateInventory id delta) = if i.product = p then delta else 0 := by
  dsimp only [intake]
  rw [hi, Option.map_some]
  by_cases hp : i.product = p
  · rw [if_pos hp, if_pos (congrArg some hp)]
  · rw [if_neg hp, if_neg fun he => hp (Option.some.inj he)]

/-- What a step adds to the units of a product is what the ledger says. -/
theorem Step.units {op : Operation} {r : Reply} (h : Step shop op r shop')
    (hsound : shop.Sound) (p : String) : shop'.units p = shop.units p + shop.intake p op := by
  have hf := hsound.filed.floor
  have hids := hsound.filed.baskets
  -- Most steps leave the number of units, and the ledger says nothing of them.
  have hsame : ∀ {n : Int}, n = shop.units p → n = shop.units p + 0 := fun hn =>
    hn.trans (Int.add_zero _).symm
  have hkept : ∀ {k s s'}, shop.stores.get? k = some s → s'.id = s.id →
      s'.inventory = s.inventory → (shop.putStore s').units p = shop.units p + 0 :=
    fun hs hid hinventory =>
      hsame (units_putStore hs (hid.trans (hsound.store_self hs).1) hinventory)
  cases h with
  | query hquery =>
      rw [intake_of_query hquery, Int.add_zero]
  | openStore hk =>
      refine hsame (units_eq_of_eq ?_ rfl)
      exact (Keyed.total_insert_new _ hk _ _).trans (Int.add_zero _)
  | updateStore _ _ hs hs' =>
      subst hs'
      exact hkept hs rfl rfl
  | @closeStore k s hs =>
      dsimp only [intake]
      rw [units_without (hsound.store_self hs).2, Keyed.find?_some, hs, Option.elim_some]
      omega
  | openAisle _ _ hs _ _ _ => exact hkept hs rfl rfl
  | putUpShelf _ _ _ hs _ _ _ _ _ => exact hkept hs rfl rfl
  | addProduct _ _ _ _ _ _ _ _ _ => exact hsame rfl
  | @addInventory _ _ _ _ x _ _ _ _ _ item _ _ _ hs _ _ _ _ hx _ _ hsi hj =>
      have hitem : item.id = x := hsound.filed.products x item hx
      subst hj
      rw [intake_provisionInventory, units_addInventory hs (hsound.store_self hs).1 hsi, hitem]
  | @adjustInventory _ i _ delta hi _ _ hi' =>
      have hgain : i.count + delta - i.count = delta := by omega
      subst hi'
      rw [intake_updateInventory hi, units_putInventory ((inventory?_eq_some_iff hf _ _).1 hi).1,
        hgain]
  | addCustomer _ _ _ _ => exact hsame rfl
  | moveCustomer _ hs _ => exact hsame (units_afterMove hids (hsound.store_self hs).2)
  | addBasket hi hb =>
      subst hb
      refine hsame (units_eq_of_eq rfl ?_)
      exact (Keyed.total_insert_new _ hi _ _).trans (Int.add_zero _)
  | assignBasket hc hb _ _ _ =>
      exact hsame (units_afterAssign (hsound.basket_self hb).2 (hsound.placed.spot_store hc))
  | @takeIntoBasket _ _ _ _ _ q _ _ _ hb _ _ _ hi _ _ _ hi' hb' =>
      rcases choose_keeps hf hi with ⟨hkeeps, hproduct⟩
      subst hi' hb'
      exact hsame (units_taken q hids hb hkeeps hproduct)
  | @putBackFromBasket _ _ _ _ _ q _ _ _ _ hb hheld _ _ _ _ hi _ _ _ hi' hb' =>
      rcases choose_keeps hf hi with ⟨hkeeps, hproduct⟩
      subst hi' hb'
      exact hsame (units_returned q hids hb hheld hkeeps hproduct)
  | @emptyBasket k b hb =>
      dsimp only [intake]
      rw [units_emptied hf hids hb, Keyed.find?_some, hb, Option.elim_some]
      omega
  | installDevice _ hs _ _ _ _ => exact hkept hs rfl rfl
  | raiseEvent _ _ _ => exact hsame rfl
  | issueCommand _ _ _ _ => exact hsame rfl

/-! ## What an operation adds -/

/-- What an operation adds to the units of a product is what is booked for it. -/
theorem Sound.units_run (hsound : shop.Sound) (p : String) (token : Option String)
    (op : Operation) :
    (Shop.run token op shop).2.units p = shop.units p + shop.booked p token op := by
  have hmeets := attempt_meets hsound token op
  unfold booked
  rw [run_eq_attempt]
  rcases hrun : (attempt token op).runIn shop with ⟨e | r, shop'⟩
  · rw [hmeets.error e shop' hrun]
    exact (Int.add_zero _).symm
  · exact (hmeets.ok r shop' hrun).2.units hsound p

/-- Where only the line about an operation is missing, units have come in or gone out by a new count
    or not at all. -/
theorem Unlogged.intake {op : Operation} (h : Unlogged shop op shop') (p : String) :
    shop.intake p op = 0 ∨
      ∃ id delta i, op = .updateInventory id delta ∧ shop.inventory? id = some i ∧
        ¬ Number.writable (i.count + delta) = true := by
  rcases h with ⟨r, hstep, n, hn, hlong⟩
  cases hstep with
  | @adjustInventory k i i' delta hi _ _ hi' =>
      subst hi'
      rw [List.mem_singleton.1 hn] at hlong
      exact .inr ⟨some k, delta, i, rfl, hi, hlong⟩
  | takeIntoBasket => exact .inl rfl
  | putBackFromBasket => exact .inl rfl
  | query hquery => exact .inl (intake_of_query hquery)
  | _ => cases hn

/-- What a run adds to the units of a product is the sum of what is booked for its operations. -/
theorem Sound.units_runAll (hsound : shop.Sound) (p : String)
    (calls : List (Option String × Operation)) :
    (Shop.runAll shop calls).units p = shop.units p + (bookings p shop calls).sum := by
  induction calls generalizing shop with
  | nil => exact (Int.add_zero _).symm
  | cons call calls ih =>
      rcases call with ⟨token, op⟩
      have hrest : (Shop.runAll shop ((token, op) :: calls)).units p = _ := ih (hsound.run token op)
      have hbookings : bookings p shop ((token, op) :: calls) =
          shop.booked p token op :: bookings p (Shop.run token op shop).2 calls := rfl
      rw [hrest, hsound.units_run p token op, hbookings, List.sum_cons, Int.add_assoc]

/-- The ledger of stock. In a reachable shop every operation that succeeds adds to the units of a
    product what the ledger says, and one that fails adds nothing. The one exception is a new count
    that cannot be written: the inventory has it, and the call fails with the line about it. What is
    booked is what was carried out, and what a run leaves of a product is the sum of all that was
    booked. -/
theorem stock_ledger (p : String) :
    (∀ shop, Reachable shop → ∀ token op,
      (∀ reply, (Shop.run token op shop).1 = .ok reply →
        (Shop.run token op shop).2.units p = shop.units p + shop.intake p op) ∧
      (∀ e, (Shop.run token op shop).1 = .error e →
        (Shop.run token op shop).2.units p = shop.units p ∨
        e = .badValue .longNumber ∧
          (Shop.run token op shop).2.units p = shop.units p + shop.intake p op ∧
          ∃ id delta i, op = .updateInventory id delta ∧ shop.inventory? id = some i ∧
            ¬ Number.writable (i.count + delta) = true) ∧
      (Shop.run token op shop).2.units p = shop.units p + shop.booked p token op) ∧
    (∀ calls, (Shop.runAll .empty calls).units p = (bookings p .empty calls).sum) := by
  refine ⟨fun shop h token op => ?_, fun calls => ?_⟩
  · have hbooked := h.sound.units_run p token op
    rcases hrun : Shop.run token op shop with ⟨result, shop'⟩
    rw [hrun] at hbooked
    refine ⟨?_, ?_, hbooked⟩
    · rintro reply rfl
      exact (run_ok h.sound hrun).units h.sound p
    · rintro e rfl
      rcases run_error h.sound hrun with rfl | ⟨rfl, hdone⟩
      · exact .inl rfl
      · rcases hdone with ⟨r, hstep, hlogged⟩
        have hunits := hstep.units h.sound p
        rcases Unlogged.intake ⟨r, hstep, hlogged⟩ p with hnone | hcount
        · rw [hnone, Int.add_zero] at hunits
          exact .inl hunits
        · exact .inr ⟨rfl, hunits, hcount⟩
  · have hrun := sound_empty.units_runAll p calls
    have hnone : empty.units p = 0 := rfl
    rw [hnone, Int.zero_add] at hrun
    exact hrun

/-- The shelf is filled up while three units are in a basket. Of the thirteen that were booked then,
    the three are lost when the basket is emptied. -/
theorem ledger_of_full_shelf :
    let calls := morning ++ [(some "key", .updateInventory (some "i1") 5)]
    let shop := Shop.runAll .empty calls
    shop.units "rye" = 13 ∧
      (Shop.run (some "key") (.clearBasket (some "b1")) shop).2.units "rye" = 10 := by
  intro calls shop
  have hsum : (bookings "rye" .empty calls).sum = 13 := by decide +kernel
  have hbefore : shop.units "rye" = 13 := ((stock_ledger "rye").2 calls).trans hsum
  have hafter := ((stock_ledger "rye").1 shop (Reachable.empty.runAll calls) (some "key")
    (.clearBasket (some "b1"))).2.2
  have hlost : shop.booked "rye" (some "key") (.clearBasket (some "b1")) = -3 := by decide +kernel
  refine ⟨hbefore, ?_⟩
  rw [hafter, hbefore, hlost]
  rfl

/-- The greatest count that can be written is raised by one. The call fails, and there is one unit
    more. -/
theorem unit_without_success :
    ¬ ∀ shop, Reachable shop → ∀ token op e, (Shop.run token op shop).1 = .error e →
      ∀ p, (Shop.run token op shop).2.units p = shop.units p := by
  intro hall
  let shop := Shop.runAll .empty (bulkMorning Number.greatest)
  have hfails : (Shop.run (some "key") (.updateInventory (some "i1") 1) shop).1 =
      .error (.badValue .longNumber) := by decide +kernel
  have hsame := hall shop (Reachable.empty.runAll _) _ _ _ hfails "rye"
  have hmore : (Shop.run (some "key") (.updateInventory (some "i1") 1) shop).2.units "rye" ≠
      shop.units "rye" := by decide +kernel
  exact hmore hsame

end Shop

end Shopfloor
