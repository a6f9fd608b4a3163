import Shopfloor.Proofs.Act.Emptying
/-!
# What Operations Do

Every operation, described at once: in a sound shop it takes the step that
`Step` names, or it fails and the shop is exactly what it was.

Most acts are described without any assumption about the shop. Emptying a
basket is the one that needs to know that stock is in range, since it is the
one that goes on writing after a check that could fail.

The line about an operation is written when it is done. `Unlogged` is the one way in
which a run can fail and have changed the shop: the operation has taken its step, and
the line about it names a number that cannot be written.

## Main definitions

* `Shop.Unlogged`: An operation is done, but the line about it cannot be written.

## Theorems

* `raiseEvent_meets`, `issueCommand_meets`: Devices.
* `carryOut_meets`: What an operation does once the token has been seen.
* `attempt_meets`: What an operation does.
* `run_eq_attempt`: What is written about an operation, and what it has done.
* `run_of_isToken`, `run_of_not_isToken`: What the token decides.
* `runIn_carryOut_of_query`, `run_of_query`: What is there to see is seen.
* `run_shop`, `run_ok`, `run_error`: What an operation does, read off a run.
-/

namespace Shopfloor

/-- Whether a number is written about an operation: the units that it moves, or leaves. -/
def Operation.countsUnits : Operation → Bool
  | .updateInventory .. | .addBasketProduct .. | .removeBasketProduct .. => true
  | _ => false

theorem Operation.recorded_of_not_countsUnits {op : Operation} (h : op.countsUnits = false)
    (r : Reply) : op.recorded r = .ok r := by
  cases op <;> first
    | rfl
    | cases h

theorem Operation.recorded_eq_ok_iff (op : Operation) (r r' : Reply) :
    op.recorded r = .ok r' ↔ (∀ n ∈ op.logged r, Number.writable n = true) ∧ r' = r := by
  unfold recorded
  by_cases h : (op.logged r).all Number.writable = true
  · rw [if_pos h, Except.ok.injEq, List.all_eq_true] at *
    exact ⟨fun he => ⟨h, he.symm⟩, fun he => he.2.symm⟩
  · rw [if_neg h]
    exact ⟨nofun, fun he => absurd (List.all_eq_true.2 he.1) h⟩

theorem Operation.recorded_eq_error_iff (op : Operation) (r : Reply) (e : Fault) :
    op.recorded r = .error e ↔
      e = .badValue .longNumber ∧ ∃ n ∈ op.logged r, ¬ Number.writable n = true := by
  unfold recorded
  by_cases h : (op.logged r).all Number.writable = true
  · rw [if_pos h]
    refine ⟨nofun, ?_⟩
    rintro ⟨-, n, hn, hlong⟩
    exact absurd (List.all_eq_true.1 h n hn) hlong
  · rw [if_neg h, Except.error.injEq]
    rw [Bool.not_eq_true, List.all_eq_false] at h
    exact ⟨fun he => ⟨he.symm, h⟩, fun he => he.1.symm⟩

namespace Shop

variable {shop : Shop} (action : String)

open Act

theorem raiseEvent_meets (device event : Option String) :
    (raiseEvent action device event).Meets shop fun e shop' =>
      Step shop (.raiseEvent device event) (.event e) shop' := by
  unfold raiseEvent
  refine meets_bind_look (theDevice_meets action device) fun d hd => ?_
  rcases hd with ⟨k, rfl, hd⟩
  exact meets_write (Step.raiseEvent event hd rfl)

theorem issueCommand_meets (device command : Option String) :
    (issueCommand action device command).Meets shop fun e shop' =>
      Step shop (.issueCommand device command) (.event e) shop' := by
  unfold issueCommand
  refine meets_bind_look (theDevice_meets action device) fun d hd => ?_
  rcases hd with ⟨k, rfl, hd⟩
  cases ht : d.takesCommands with
  | false => exact meets_bind_fail _ _ _
  | true => exact meets_write (Step.issueCommand command hd ht rfl)

theorem customerBasket_meets (customer : Option String) :
    (customerBasket action customer).Meets shop fun b shop' =>
      Step shop (.getCustomerBasket customer) (.basket b) shop' := by
  unfold customerBasket
  refine meets_bind_look (theCustomer_meets action customer) fun c hc => ?_
  rcases hc with ⟨i, rfl, hc⟩
  cases hheld : c.basket with
  | none => exact meets_fail _ _
  | some held =>
      refine (theBasket_meets action (some held)).mono ?_
      -- The basket that the customer names was found, so it is what is seen.
      rintro b shop' ⟨rfl, k, hk, hb⟩
      refine Step.query ?_
      dsimp only [query]
      rw [Keyed.find?_some, hc, Option.bind_some, hheld, hk, Keyed.find?_some, hb, Option.map_some]

theorem showAisle_meets (store number : Option String) :
    (do
      let s ← theStore action store
      Reply.aisle <$> Act.ofExcept (s.getAisle number)).Meets shop fun r shop' =>
        Step shop (.showAisle store number) r shop' := by
  refine meets_bind_look (theStore_meets action store) fun s hs => ?_
  rcases hs with ⟨k, rfl, hs⟩
  refine meets_map (meets_ofExcept fun a ha => ?_)
  rcases (Store.getAisle_eq_ok_iff _ _ _).1 ha with ⟨n, rfl, hn⟩
  refine Step.query ?_
  dsimp only [query]
  rw [Keyed.find?_some, hs, Option.bind_some, Keyed.find?_some, hn, Option.map_some]

theorem showShelf_meets (store number id : Option String) :
    (do
      let s ← theStore action store
      Reply.shelf <$> Act.ofExcept (s.getShelf number id)).Meets shop fun r shop' =>
        Step shop (.showShelf store number id) r shop' := by
  refine meets_bind_look (theStore_meets action store) fun s hs => ?_
  rcases hs with ⟨k, rfl, hs⟩
  refine meets_map (meets_ofExcept fun b hb => ?_)
  unfold Store.getShelf at hb
  -- Both the aisle and the shelf in it have to be there.
  cases ha : s.getAisle number with
  | error e =>
      rw [ha] at hb
      cases hb
  | ok a =>
      rw [ha] at hb
      rcases (Store.getAisle_eq_ok_iff _ _ _).1 ha with ⟨n, rfl, hn⟩
      rcases (Aisle.getShelf_eq_ok_iff _ _ _).1 hb with ⟨i, rfl, hi⟩
      refine Step.query ?_
      dsimp only [query]
      rw [Keyed.find?_some, hs, Option.bind_some, Keyed.find?_some, hn, Option.bind_some,
        Keyed.find?_some, hi, Option.map_some]

/-- A record that is looked up is shown. -/
theorem show_meets {α : Type} {op : Operation} {reply : α → Reply} {act : Act α}
    {P : α → Prop} (h : act.Meets shop fun a shop' => shop' = shop ∧ P a)
    (hquery : ∀ a, P a → shop.query op = some (reply a)) :
    (reply <$> act).Meets shop fun r shop' => Step shop op r shop' := by
  refine meets_map (h.mono ?_)
  rintro a shop' ⟨rfl, ha⟩
  exact Step.query (hquery a ha)

/-- In a sound shop an operation takes its step, or the shop is what it was. -/
theorem carryOut_meets (hsound : shop.Sound) (op : Operation) :
    (carryOut op).Meets shop fun r shop' => Step shop op r shop' := by
  cases op with
  | provisionStore id name address => exact meets_map (openStore_meets _ id name address)
  | showStore id =>
      refine show_meets (theStore_meets _ id) ?_
      rintro s ⟨k, rfl, hs⟩
      exact congrArg (Option.map Reply.store) hs
  | updateStore id description address =>
      exact meets_map (updateStore_meets _ id description address)
  | deleteStore id => exact meets_map (closeStore_meets _ id)
  | provisionAisle store number name description location =>
      exact meets_map (openAisle_meets _ store number name description location)
  | showAisle store number => exact showAisle_meets _ store number
  | provisionShelf store number id name level description temperature =>
      exact meets_map (putUpShelf_meets _ store number id name level description temperature)
  | showShelf store number id => exact showShelf_meets _ store number id
  | provisionProduct id name description size category price temperature =>
      exact meets_map (addProduct_meets _ id name description size category price temperature)
  | showProduct id =>
      refine show_meets (theProduct_meets _ id) ?_
      rintro p ⟨k, rfl, hp⟩
      exact congrArg (Option.map Reply.product) hp
  | provisionInventory id store number shelf capacity count product type =>
      exact meets_map (addInventory_meets _ id store number shelf capacity count product type)
  | showInventory id =>
      refine show_meets (theInventory_meets _ id) ?_
      rintro i ⟨k, rfl, hi⟩
      exact congrArg (Option.map Reply.inventory) hi
  | updateInventory id delta => exact meets_map (adjustInventory_meets _ id delta)
  | provisionCustomer id firstName lastName type email account =>
      exact meets_map (addCustomer_meets _ id firstName lastName type email account)
  | showCustomer id =>
      refine show_meets (theCustomer_meets _ id) ?_
      rintro c ⟨k, rfl, hc⟩
      exact congrArg (Option.map Reply.customer) hc
  | updateCustomer id store number => exact meets_map (moveCustomer_meets _ id store number)
  | provisionBasket id => exact meets_map (addBasket_meets _ id)
  | showBasket id =>
      refine show_meets (theBasket_meets _ id) ?_
      rintro b ⟨k, rfl, hb⟩
      exact congrArg (Option.map Reply.basket) hb
  | getCustomerBasket customer => exact meets_map (customerBasket_meets _ customer)
  | assignCustomerBasket customer basket => exact meets_map (assignBasket_meets _ customer basket)
  | addBasketProduct basket product quantity =>
      exact meets_map (takeIntoBasket_meets _ basket product quantity)
  | removeBasketProduct basket product quantity =>
      exact meets_map (putBackFromBasket_meets _ basket product quantity)
  | clearBasket basket =>
      exact meets_map (emptyBasket_meets _ hsound.filed.floor hsound.stocked basket)
  | provisionDevice id name type store number =>
      exact meets_map (installDevice_meets _ id name type store number)
  | showDevice id =>
      refine show_meets (theDevice_meets _ id) ?_
      rintro d ⟨k, rfl, hd⟩
      exact congrArg (Option.map Reply.device) hd
  | raiseEvent device event => exact meets_map (raiseEvent_meets _ device event)
  | issueCommand device command => exact meets_map (issueCommand_meets _ device command)

/-- The token comes first: without one nothing is done. -/
theorem attempt_meets (hsound : shop.Sound) (token : Option String) (op : Operation) :
    (attempt token op).Meets shop fun r shop' => isToken token = true ∧ Step shop op r shop' := by
  unfold attempt checkToken
  cases ht : isToken token with
  | false => exact meets_bind_fail _ _ _
  | true =>
      refine meets_bind_pure ((carryOut_meets hsound op).mono fun r shop' h => ?_)
      exact ⟨rfl, h⟩

/-- What is written about an operation decides how it ends, and not what it has done. -/
theorem run_eq_attempt (token : Option String) (op : Operation) :
    run token op shop = (((attempt token op).runIn shop).1.bind op.recorded,
      ((attempt token op).runIn shop).2) := by
  unfold run perform
  rw [runIn_bind]
  rcases (attempt token op).runIn shop with ⟨_ | r, shop'⟩
  · rfl
  · rfl

theorem attempt_of_isToken {token : Option String} (htoken : isToken token = true)
    (op : Operation) : (attempt token op).runIn shop = (carryOut op).runIn shop := by
  unfold attempt checkToken
  rw [if_pos htoken]
  rfl

/-- With a token, an operation is carried out, and a line is written about it. -/
theorem run_of_isToken {token : Option String} (htoken : isToken token = true) (op : Operation) :
    run token op shop =
      (((carryOut op).runIn shop).1.bind op.recorded, ((carryOut op).runIn shop).2) := by
  rw [run_eq_attempt, attempt_of_isToken htoken]

/-- An operation that is carried out and fails is not written about. -/
theorem run_of_error {token : Option String} (htoken : isToken token = true) {op : Operation}
    {e : Fault} {shop' : Shop} (h : (carryOut op).runIn shop = (.error e, shop')) :
    run token op shop = (.error e, shop') := by
  rw [run_of_isToken htoken, h]
  rfl

/-- An operation about which no number is written ends as it is carried out. -/
theorem run_of_not_countsUnits {token : Option String} (htoken : isToken token = true)
    {op : Operation} (hop : op.countsUnits = false) :
    run token op shop = (carryOut op).runIn shop := by
  rw [run_of_isToken htoken]
  rcases (carryOut op).runIn shop with ⟨_ | r, shop'⟩
  · rfl
  · exact congrArg (·, shop') (op.recorded_of_not_countsUnits hop r)

/-- Without a token, an operation is refused before anything is looked at. -/
theorem run_of_not_isToken {token : Option String} (htoken : isToken token = false)
    (op : Operation) : run token op shop = (.error (.failure op.action .tokenMissing), shop) := by
  unfold run perform attempt checkToken
  rw [htoken]
  rfl

/-- What is there is found. -/
theorem runIn_found {α : Type} (noun : Noun) (id : Option String) {x : Option α} {a : α}
    (h : x = some a) : (found action noun id x).runIn shop = (.ok a, shop) := by
  subst h
  rfl

theorem runIn_theBasket {id : Option String} {b : Basket} (h : shop.baskets.find? id = some b) :
    (theBasket action id).runIn shop = (.ok b, shop) :=
  runIn_found action .basket id h

/-- An act that begins with a basket that is not there ends with that. -/
theorem runIn_bind_theBasket_none {α : Type} {id : Option String} {f : Basket → Act α}
    (h : shop.baskets.find? id = none) :
    (theBasket action id >>= f).runIn shop =
      (.error (.failure action (.absent .basket (shown id))), shop) := by
  have hnone : (theBasket action id).runIn shop =
      (.error (.failure action (.absent .basket (shown id))), shop) := by
    change (found action .basket id (shop.baskets.find? id)).runIn shop = _
    rw [h]
    rfl
  rw [runIn_bind, hnone]

/-- A record that is looked up and found is shown. -/
theorem runIn_show {α : Type} {act : Act α} {x : Option α} {reply : α → Reply} {r : Reply}
    (hact : ∀ a, x = some a → act.runIn shop = (.ok a, shop)) (h : x.map reply = some r) :
    (reply <$> act).runIn shop = (.ok r, shop) := by
  rcases Option.map_eq_some_iff.1 h with ⟨a, ha, rfl⟩
  rw [runIn_map, hact a ha]

/-- An aisle that is there is found in its store. -/
theorem runIn_getAisle {s : Store} {number : Option String} {a : Aisle}
    (h : s.aisles.find? number = some a) :
    (Act.ofExcept (s.getAisle number)).runIn shop = (.ok a, shop) := by
  rw [(Store.getAisle_eq_ok_iff _ _ _).2 ((Keyed.find?_eq_some_iff _ _ _).1 h)]
  rfl

/-- A shelf that is there is found in its store. -/
theorem runIn_getShelf {s : Store} {number id : Option String} {a : Aisle} {b : Shelf}
    (ha : s.aisles.find? number = some a) (hb : a.shelves.find? id = some b) :
    (Act.ofExcept (s.getShelf number id)).runIn shop = (.ok b, shop) := by
  unfold Store.getShelf
  rw [(Store.getAisle_eq_ok_iff _ _ _).2 ((Keyed.find?_eq_some_iff _ _ _).1 ha)]
  change (Act.ofExcept (a.getShelf id)).runIn shop = _
  rw [(Aisle.getShelf_eq_ok_iff _ _ _).2 ((Keyed.find?_eq_some_iff _ _ _).1 hb)]
  rfl

/-- An operation that only looks finds what there is to see, and changes nothing. -/
theorem runIn_carryOut_of_query {op : Operation} {r : Reply} (h : shop.query op = some r) :
    (carryOut op).runIn shop = (.ok r, shop) := by
  cases op with
  | showStore id => exact runIn_show (fun _ hs => runIn_found _ _ id hs) h
  | showProduct id => exact runIn_show (fun _ hp => runIn_found _ _ id hp) h
  | showInventory id => exact runIn_show (fun _ hi => runIn_found _ _ id hi) h
  | showCustomer id => exact runIn_show (fun _ hc => runIn_found _ _ id hc) h
  | showBasket id => exact runIn_show (fun _ hb => runIn_found _ _ id hb) h
  | showDevice id => exact runIn_show (fun _ hd => runIn_found _ _ id hd) h
  | showAisle store number =>
      rcases Option.map_eq_some_iff.1 h with ⟨a, hfound, rfl⟩
      rcases Option.bind_eq_some_iff.1 hfound with ⟨s, hs, ha⟩
      have hstore : (theStore "Show Aisle" store).runIn shop = (.ok s, shop) :=
        runIn_found _ _ store hs
      change (theStore "Show Aisle" store >>= fun s =>
        Reply.aisle <$> Act.ofExcept (s.getAisle number)).runIn shop = _
      rw [runIn_bind, hstore]
      dsimp only
      rw [runIn_map, runIn_getAisle ha]
  | showShelf store number id =>
      rcases Option.map_eq_some_iff.1 h with ⟨b, hfound, rfl⟩
      rcases Option.bind_eq_some_iff.1 hfound with ⟨a, hfound', hb⟩
      rcases Option.bind_eq_some_iff.1 hfound' with ⟨s, hs, ha⟩
      have hstore : (theStore "Show Shelf" store).runIn shop = (.ok s, shop) :=
        runIn_found _ _ store hs
      change (theStore "Show Shelf" store >>= fun s =>
        Reply.shelf <$> Act.ofExcept (s.getShelf number id)).runIn shop = _
      rw [runIn_bind, hstore]
      dsimp only
      rw [runIn_map, runIn_getShelf ha hb]
  | getCustomerBasket customer =>
      refine runIn_show (fun b hb => ?_) h
      rcases Option.bind_eq_some_iff.1 hb with ⟨c, hc, hheld⟩
      rcases (Keyed.find?_eq_some_iff _ _ _).1 hheld with ⟨k, hk, -⟩
      have hcustomer : (theCustomer "Get Customer Basket" customer).runIn shop = (.ok c, shop) :=
        runIn_found _ _ customer hc
      unfold customerBasket
      rw [runIn_bind, Operation.action, hcustomer]
      dsimp only
      rw [hk] at hheld ⊢
      exact runIn_found _ _ (some k) hheld
  | _ => cases h

/-- No number is written about what only looks. -/
theorem countsUnits_of_query {op : Operation} {r : Reply} (h : shop.query op = some r) :
    op.countsUnits = false := by
  cases op <;> first
    | rfl
    | cases h

/-- With a token, an operation that only looks finds what there is to see. -/
theorem run_of_query {token : Option String} (htoken : isToken token = true) {op : Operation}
    {r : Reply} (h : shop.query op = some r) : run token op shop = (.ok r, shop) := by
  rw [run_of_not_countsUnits htoken (countsUnits_of_query h), runIn_carryOut_of_query h]

/-- An operation is done, but the line about it names a number that cannot be written. -/
def Unlogged (shop : Shop) (op : Operation) (shop' : Shop) : Prop :=
  ∃ r, Step shop op r shop' ∧ ∃ n ∈ op.logged r, ¬ Number.writable n = true

/-- A run that succeeds was attempted with success, and its line was written. -/
theorem run_eq_ok_iff_attempt {token : Option String} {op : Operation} {r : Reply} {shop' : Shop} :
    run token op shop = (.ok r, shop') ↔
      (attempt token op).runIn shop = (.ok r, shop') ∧
        ∀ n ∈ op.logged r, Number.writable n = true := by
  rw [run_eq_attempt]
  rcases (attempt token op).runIn shop with ⟨_ | r', next⟩
  · exact ⟨nofun, nofun⟩
  · dsimp only [Except.bind]
    rw [Prod.mk.injEq, Prod.mk.injEq, Operation.recorded_eq_ok_iff, Except.ok.injEq]
    constructor
    · rintro ⟨⟨hlogged, rfl⟩, rfl⟩
      exact ⟨⟨rfl, rfl⟩, hlogged⟩
    · rintro ⟨⟨rfl, rfl⟩, hlogged⟩
      exact ⟨⟨hlogged, rfl⟩, rfl⟩

/-- However a run ends, it has taken the step of the operation or none. -/
theorem run_shop (hsound : shop.Sound) (token : Option String) (op : Operation) :
    (run token op shop).2 = shop ∨ ∃ r, Step shop op r (run token op shop).2 := by
  have hmeets := attempt_meets hsound token op
  rw [run_eq_attempt]
  rcases hrun : (attempt token op).runIn shop with ⟨e | r, next⟩
  · exact .inl (hmeets.error e next hrun)
  · exact .inr ⟨r, (hmeets.ok r next hrun).2⟩

/-- A run that succeeds takes the step of the operation. -/
theorem run_ok (hsound : shop.Sound) {token : Option String} {op : Operation} {r : Reply}
    {shop' : Shop} (h : run token op shop = (.ok r, shop')) : Step shop op r shop' :=
  ((attempt_meets hsound token op).ok r shop' (run_eq_ok_iff_attempt.1 h).1).2

/-- A run that fails leaves the shop as it was, unless all that failed is the line about it. -/
theorem run_error (hsound : shop.Sound) {token : Option String} {op : Operation} {e : Fault}
    {shop' : Shop} (h : run token op shop = (.error e, shop')) :
    shop' = shop ∨ e = .badValue .longNumber ∧ Unlogged shop op shop' := by
  have hmeets := attempt_meets hsound token op
  rw [run_eq_attempt] at h
  rcases hrun : (attempt token op).runIn shop with ⟨e' | r, next⟩
  · rw [hrun] at h
    cases h
    exact .inl (hmeets.error _ _ hrun)
  · rw [hrun] at h
    rcases Prod.mk.inj h with ⟨hlong, rfl⟩
    rcases (op.recorded_eq_error_iff r e).1 hlong with ⟨rfl, hlogged⟩
    exact .inr ⟨rfl, r, (hmeets.ok r _ hrun).2, hlogged⟩

end Shop

end Shopfloor
