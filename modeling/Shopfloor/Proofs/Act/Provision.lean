import Shopfloor.Proofs.Act.Triple
import Shopfloor.Proofs.Keyed.Lookup
import Shopfloor.Proofs.Step
/-!
# What Provisioning Does

Each act that registers something new, described by `Meets`: it registers the
record that `Step` names, or it fails and registers nothing.

The acts look at what the new thing is to stand in, then at their arguments,
and write last. None of them can fail once it writes, and none of the proofs
needs to know anything of the shop.

## Theorems

* `found_meets`: Looking up what has to be there.
* `require_eq_ok_iff`: Reading a choice.
* `openStore_meets`, `openAisle_meets`, `putUpShelf_meets`: The layout.
* `addProduct_meets`, `addInventory_meets`: The catalogue and the stock.
* `addCustomer_meets`, `addBasket_meets`: Shoppers.
* `installDevice_meets`: Devices.
-/

namespace Shopfloor

theorem shown_some (s : String) : shown (some s) = s := rfl

theorem Choice.require_eq_ok_iff {α : Type} [Choice α] (action : String) (given : Option String)
    (a : α) : Choice.require action given = .ok a ↔ Choice.read? (shown given) = some a := by
  unfold Choice.require
  cases Choice.read? (α := α) (shown given) with
  | none => simp
  | some b => simp

theorem Store.getAisle_eq_ok_iff (s : Store) (number : Option String) (a : Aisle) :
    s.getAisle number = .ok a ↔ ∃ n, number = some n ∧ s.aisles.get? n = some a := by
  rw [← Keyed.find?_eq_some_iff]
  unfold Store.getAisle
  cases s.aisles.find? number with
  | none => simp
  | some b => simp

theorem Aisle.getShelf_eq_ok_iff (a : Aisle) (id : Option String) (b : Shelf) :
    a.getShelf id = .ok b ↔ ∃ i, id = some i ∧ a.shelves.get? i = some b := by
  rw [← Keyed.find?_eq_some_iff]
  unfold Aisle.getShelf
  cases a.shelves.find? id with
  | none => simp
  | some c => simp

/-- What takes something up under a key refuses the key if it is taken, and does nothing else. -/
theorem Keyed.take_eq_ok_iff {α β : Type} (m : Keyed α) (k : String) (e : Fault) (x y : β) :
    (if m.contains k then Except.error e else .ok x) = .ok y ↔ m.get? k = none ∧ y = x := by
  rw [← m.contains_eq_false_iff]
  cases m.contains k with
  | false => simp [eq_comm]
  | true => simp

theorem Store.addAisle_eq_ok_iff (s s' : Store) (a : Aisle) :
    s.addAisle a = .ok s' ↔
      s.aisles.get? a.number = none ∧ s' = { s with aisles := s.aisles.insert a.number a } :=
  s.aisles.take_eq_ok_iff a.number _ _ _

theorem Aisle.addShelf_eq_ok_iff (a a' : Aisle) (b : Shelf) :
    a.addShelf b = .ok a' ↔
      a.shelves.get? b.id = none ∧ a' = { a with shelves := a.shelves.insert b.id b } :=
  a.shelves.take_eq_ok_iff b.id _ _ _

theorem Store.addInventory_eq_ok_iff (s s' : Store) (i : Inventory) :
    s.addInventory i = .ok s' ↔
      s.inventory.get? i.id = none ∧ s' = { s with inventory := s.inventory.insert i.id i } :=
  s.inventory.take_eq_ok_iff i.id _ _ _

theorem Store.addDevice_eq_ok_iff (s s' : Store) (d : Device) :
    s.addDevice d = .ok s' ↔
      s.devices.get? d.id = none ∧ s' = { s with devices := s.devices.insert d.id d } :=
  s.devices.take_eq_ok_iff d.id _ _ _

namespace Shop

variable {shop : Shop} (action : String)

open Act

/-- What is looked up is what is there, and looking changes nothing. -/
theorem found_meets {α : Type} (noun : Noun) (id : Option String) (x : Option α) :
    (found action noun id x).Meets shop fun a shop' => shop' = shop ∧ x = some a := by
  cases x with
  | none => exact meets_fail _ _
  | some a => exact meets_pure ⟨rfl, rfl⟩

theorem theStore_meets (id : Option String) :
    (theStore action id).Meets shop fun s shop' =>
      shop' = shop ∧ ∃ k, id = some k ∧ shop.stores.get? k = some s := by
  refine meets_bind_get ((found_meets action .store id _).mono fun s shop' h => ?_)
  exact ⟨h.1, (Keyed.find?_eq_some_iff _ _ _).1 h.2⟩

theorem theProduct_meets (id : Option String) :
    (theProduct action id).Meets shop fun p shop' =>
      shop' = shop ∧ ∃ k, id = some k ∧ shop.products.get? k = some p := by
  refine meets_bind_get ((found_meets action .product id _).mono fun p shop' h => ?_)
  exact ⟨h.1, (Keyed.find?_eq_some_iff _ _ _).1 h.2⟩

theorem theCustomer_meets (id : Option String) :
    (theCustomer action id).Meets shop fun c shop' =>
      shop' = shop ∧ ∃ k, id = some k ∧ shop.customers.get? k = some c := by
  refine meets_bind_get ((found_meets action .customer id _).mono fun c shop' h => ?_)
  exact ⟨h.1, (Keyed.find?_eq_some_iff _ _ _).1 h.2⟩

theorem theBasket_meets (id : Option String) :
    (theBasket action id).Meets shop fun b shop' =>
      shop' = shop ∧ ∃ k, id = some k ∧ shop.baskets.get? k = some b := by
  refine meets_bind_get ((found_meets action .basket id _).mono fun b shop' h => ?_)
  exact ⟨h.1, (Keyed.find?_eq_some_iff _ _ _).1 h.2⟩

theorem inventory?_none : shop.inventory? none = none := by
  unfold inventory?
  exact List.findSome?_eq_none_iff.2 fun s _ => rfl

theorem device?_none : shop.device? none = none := by
  unfold device?
  exact List.findSome?_eq_none_iff.2 fun s _ => rfl

theorem theInventory_meets (id : Option String) :
    (theInventory action id).Meets shop fun i shop' =>
      shop' = shop ∧ ∃ k, id = some k ∧ shop.inventory? (some k) = some i := by
  refine meets_bind_get ((found_meets action .inventory id _).mono fun i shop' h => ?_)
  rcases h with ⟨hs, hi⟩
  cases id with
  | none =>
      rw [inventory?_none] at hi
      cases hi
  | some k => exact ⟨hs, k, rfl, hi⟩

theorem theDevice_meets (id : Option String) :
    (theDevice action id).Meets shop fun d shop' =>
      shop' = shop ∧ ∃ k, id = some k ∧ shop.device? (some k) = some d := by
  refine meets_bind_get ((found_meets action .device id _).mono fun d shop' h => ?_)
  rcases h with ⟨hs, hd⟩
  cases id with
  | none =>
      rw [device?_none] at hd
      cases hd
  | some k => exact ⟨hs, k, rfl, hd⟩

/-- A refusal of an id that is taken; past it, the id is free. -/
theorem meets_unless_taken {α β : Type} {Q : α → Shop → Prop} {x : Option β} {c : Cause}
    {rest : Unit → Act α} (h : x = none → (rest ()).Meets shop Q) :
    (if x.isSome = true then fail action c >>= rest else rest ()).Meets shop Q := by
  cases x with
  | none => exact h rfl
  | some b => exact meets_bind_fail action c rest

theorem openStore_meets (id name address : Option String) :
    (openStore action id name address).Meets shop fun s shop' =>
      Step shop (.provisionStore id name address) (.store s) shop' := by
  unfold openStore
  refine meets_bind_get (meets_unless_taken action fun hfree => ?_)
  -- Each of the three texts has to be given.
  cases id with
  | none => exact meets_throw _
  | some k =>
      cases address with
      | none => exact meets_throw _
      | some a =>
          cases name with
          | none => exact meets_throw _
          | some n => exact meets_write (Step.openStore hfree)

/-- Reading where an aisle lies, which need not be said. -/
theorem place_meets (location : Option String) {α : Type} {Q : α → Shop → Prop}
    {rest : Option AisleLocation → Act α}
    (h : ∀ place : Option AisleLocation, location.map Choice.read? = place.map some →
      (rest place).Meets shop Q) :
    (match location with
      | some l => (some <$> ofExcept (Choice.require (α := AisleLocation) action (some l))) >>= rest
      | none => pure none >>= rest).Meets shop Q := by
  cases location with
  | none => exact meets_bind_pure (h none rfl)
  | some l =>
      dsimp only
      rw [map_eq_pure_bind, bind_assoc]
      refine meets_bind_ofExcept fun place hp => ?_
      have hread := (Choice.require_eq_ok_iff action (some l) place).1 hp
      rw [shown_some] at hread
      exact h (some place) (congrArg some hread)

theorem openAisle_meets (store number name description location : Option String) :
    (openAisle action store number name description location).Meets shop fun a shop' =>
      Step shop (.provisionAisle store number name description location) (.aisle a) shop' := by
  unfold openAisle
  refine place_meets action location fun place hp => ?_
  refine meets_bind_look (theStore_meets action store) fun s hs => ?_
  rcases hs with ⟨k, rfl, hs⟩
  cases number with
  | none => exact meets_throw _
  | some n =>
      cases name with
      | none => exact meets_throw _
      | some title =>
          -- Past this check the number is free, and the store is written with the aisle.
          refine meets_bind_ofExcept fun s' hs' => ?_
          rcases (Store.addAisle_eq_ok_iff _ _ _).1 hs' with ⟨hn, rfl⟩
          exact meets_write (Step.openAisle description location hs hn hp rfl)

theorem putUpShelf_meets (store number id name level description temperature : Option String) :
    (putUpShelf action store number id name level description temperature).Meets shop fun b shop' =>
      Step shop (.provisionShelf store number id name level description temperature) (.shelf b)
        shop' := by
  unfold putUpShelf
  refine meets_bind_ofExcept fun height hh => ?_
  refine meets_bind_ofExcept fun warmth hw => ?_
  refine meets_bind_look (theStore_meets action store) fun s hs => ?_
  rcases hs with ⟨k, rfl, hs⟩
  refine meets_bind_ofExcept fun a ha => ?_
  rcases (Store.getAisle_eq_ok_iff _ _ _).1 ha with ⟨n, rfl, hn⟩
  cases id with
  | none => exact meets_throw _
  | some i =>
      cases name with
      | none => exact meets_throw _
      | some title =>
          refine meets_bind_ofExcept fun a' ha' => ?_
          rcases (Aisle.addShelf_eq_ok_iff _ _ _).1 ha' with ⟨hi, rfl⟩
          -- Level and temperature were read before anything was looked up.
          have hheight := (Choice.require_eq_ok_iff _ _ _).1 hh
          have hwarmth := (Choice.require_eq_ok_iff _ _ _).1 hw
          exact meets_write
            (Step.putUpShelf level description temperature hs hn hi hheight hwarmth rfl)

theorem chargeable_meets (price : Option Binary64) :
    (chargeable action price).Meets shop fun x shop' =>
      shop' = shop ∧ price = some x ∧ x.isFinite = true ∧ x.belowZero = false := by
  cases price with
  | none => exact meets_fail _ _
  | some x =>
      unfold chargeable
      dsimp only
      by_cases h : (!x.isFinite || x.belowZero) = true
      · rw [if_pos h]
        exact meets_fail _ _
      · rw [if_neg h]
        rw [Bool.or_eq_true, not_or, Bool.not_eq_true', Bool.not_eq_false, Bool.not_eq_true] at h
        exact meets_pure ⟨rfl, rfl, h.1, h.2⟩

theorem addProduct_meets (id name description size category : Option String)
    (price : Option Binary64) (temperature : Option String) :
    (addProduct action id name description size category price temperature).Meets shop
      fun p shop' =>
        Step shop (.provisionProduct id name description size category price temperature)
          (.product p) shop' := by
  unfold addProduct
  refine meets_bind_look (chargeable_meets action price) fun x hx => ?_
  rcases hx with ⟨rfl, hx, h0⟩
  refine meets_bind_ofExcept fun warmth hw => ?_
  refine meets_bind_get (meets_unless_taken action fun hfree => ?_)
  cases id with
  | none => exact meets_throw _
  | some i =>
      cases name with
      | none => exact meets_throw _
      | some title =>
          -- The id is free and both texts are given.
          have hwarmth := (Choice.require_eq_ok_iff _ _ _).1 hw
          exact meets_write
            (Step.addProduct description size category temperature hfree hx h0 hwarmth rfl)

theorem startingCount_meets (count : Option Int) :
    (startingCount action count).Meets shop fun n shop' =>
      shop' = shop ∧ count = some n ∧ 0 ≤ n := by
  cases count with
  | none => exact meets_fail _ _
  | some n =>
      unfold startingCount
      dsimp only
      by_cases h : n < 0
      · rw [if_pos h]
        exact meets_fail _ _
      · rw [if_neg h]
        exact meets_pure ⟨rfl, rfl, by omega⟩

theorem roomFor_meets (capacity : Option Int) (count : Int) :
    (roomFor action capacity count).Meets shop fun n shop' =>
      shop' = shop ∧ capacity = some n ∧ count ≤ n := by
  cases capacity with
  | none => exact meets_fail _ _
  | some n =>
      unfold roomFor
      dsimp only
      by_cases h : n < count
      · rw [if_pos h]
        exact meets_fail _ _
      · rw [if_neg h]
        exact meets_pure ⟨rfl, rfl, by omega⟩

theorem inventoryType_meets (type : Option String) :
    (inventoryType action type).Meets shop fun sort shop' =>
      shop' = shop ∧ type.elim (some .standard) Choice.read? = some sort := by
  cases type with
  | none => exact meets_pure ⟨rfl, rfl⟩
  | some t =>
      refine meets_ofExcept fun sort hs => ?_
      have hread := (Choice.require_eq_ok_iff action (some t) sort).1 hs
      rw [shown_some] at hread
      rw [Option.elim_some]
      exact ⟨rfl, hread⟩

theorem addInventory_meets (id store number shelf : Option String) (capacity count : Option Int)
    (product type : Option String) :
    (addInventory action id store number shelf capacity count product type).Meets shop
      fun i shop' =>
        Step shop (.provisionInventory id store number shelf capacity count product type)
          (.inventory i) shop' := by
  unfold addInventory
  refine meets_bind_look (theStore_meets action store) fun s hs => ?_
  rcases hs with ⟨k, rfl, hs⟩
  refine meets_bind_ofExcept fun a ha => ?_
  rcases (Store.getAisle_eq_ok_iff _ _ _).1 ha with ⟨n, rfl, hn⟩
  refine meets_bind_ofExcept fun board hboard => ?_
  rcases (Aisle.getShelf_eq_ok_iff _ _ _).1 hboard with ⟨b, rfl, hb⟩
  -- The shelf is there. What follows are the numbers, the product and the type.
  refine meets_bind_look (startingCount_meets action count) fun units hu => ?_
  rcases hu with ⟨rfl, h0⟩
  refine meets_bind_look (roomFor_meets action capacity units) fun most hm => ?_
  rcases hm with ⟨rfl, hm⟩
  refine meets_bind_get ?_
  cases hp : shop.products.find? product with
  | none => exact meets_bind_fail _ _ _
  | some item =>
      rcases (Keyed.find?_eq_some_iff _ _ _).1 hp with ⟨p, rfl, hp⟩
      refine meets_bind_pure (meets_bind_look (inventoryType_meets action type) fun sort ht => ?_)
      refine meets_bind_get (meets_unless_taken action fun hfree => ?_)
      cases id with
      | none => exact meets_throw _
      | some i =>
          -- The store asks for its own id once more, which the search has answered.
          refine meets_bind_ofExcept fun s' hs' => ?_
          rcases (Store.addInventory_eq_ok_iff _ _ _).1 hs' with ⟨hsi, rfl⟩
          exact meets_write (Step.addInventory type hs hn hb h0 hm hp ht hfree hsi rfl)

theorem addCustomer_meets (id firstName lastName type email account : Option String) :
    (addCustomer action id firstName lastName type email account).Meets shop fun c shop' =>
      Step shop (.provisionCustomer id firstName lastName type email account) (.customer c)
        shop' := by
  unfold addCustomer
  refine meets_bind_ofExcept fun sort ht => ?_
  refine meets_bind_get (meets_unless_taken action fun hfree => ?_)
  -- Every text but the type has to be given.
  rcases id with _ | i
  · exact meets_throw _
  rcases firstName with _ | f
  · exact meets_throw _
  rcases lastName with _ | l
  · exact meets_throw _
  rcases email with _ | e
  · exact meets_throw _
  rcases account with _ | a
  · exact meets_throw _
  exact meets_write (Step.addCustomer type hfree ((Choice.require_eq_ok_iff _ _ _).1 ht) rfl)

theorem addBasket_meets (id : Option String) :
    (addBasket action id).Meets shop fun b shop' =>
      Step shop (.provisionBasket id) (.basket b) shop' := by
  unfold addBasket
  refine meets_bind_get (meets_unless_taken action fun hfree => ?_)
  cases id with
  | none => exact meets_throw _
  | some i => exact meets_write (Step.addBasket hfree rfl)

theorem installDevice_meets (id name : Option String) (type : String)
    (store number : Option String) :
    (installDevice action id name type store number).Meets shop fun d shop' =>
      Step shop (.provisionDevice id name type store number) (.device d) shop' := by
  unfold installDevice
  refine meets_bind_ofExcept fun kind hk => ?_
  refine meets_bind_look (theStore_meets action store) fun s hs => ?_
  rcases hs with ⟨k, rfl, hs⟩
  refine meets_bind_ofExcept fun a ha => ?_
  rcases (Store.getAisle_eq_ok_iff _ _ _).1 ha with ⟨n, rfl, hn⟩
  refine meets_bind_get (meets_unless_taken action fun hfree => ?_)
  cases id with
  | none => exact meets_throw _
  | some i =>
      cases name with
      | none => exact meets_throw _
      | some title =>
          -- The store asks for its own id once more, which the search has answered.
          refine meets_bind_ofExcept fun s' hs' => ?_
          rcases (Store.addDevice_eq_ok_iff _ _ _).1 hs' with ⟨hsi, rfl⟩
          exact meets_write (Step.installDevice hk hs hn hfree hsi rfl)

end Shop

end Shopfloor
