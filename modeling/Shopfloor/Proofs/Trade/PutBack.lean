import Shopfloor.Proofs.Picking.Conditions
import Shopfloor.Proofs.Script.Ending
/-!
# What It Takes to Put Back

When a request to put units of a basket back on a shelf succeeds, said of the
records alone.

Units go back to the inventory that they would be taken from now: the one with
the least id among those of the product in the aisle of the owner. It need not
be the one that they came from, and it may have been filled up meanwhile. Then
there is no room, and the refusal comes from the inventory itself, after
everything else was found to be in order.

As with taking, the conditions stand in an order, and a request that fails is
refused for the first one that is not met. What is said of a quantity that the line
does not hold names the quantity and the units of the line, and what is said of a
shelf that is full names its count and its capacity. If one of them is too long to be
written, the attempt ends in a fault that is no failure; nothing has changed by then.
The line of a basket grows without bound, so this can happen in a shop in which every
number that was ever given can be written.

## Main definitions

* `Shop.Carries`: A basket has a line of a product.
* `Shop.Returnable`: Everything is met that it takes to put units back.
* `Shop.returnConditions`: What it takes, in order.

## Theorems

* `Basket.minus_lines`: What becomes of the line.
* `run_of_returnable`, `exists_returning_iff`: What is returnable goes back, and nothing else.
* `returning_unmet`: Why units do not go back.
* `put_back_exactly`: When it succeeds, what it does, and how it fails.
* `put_back_unsayable`: It can fail in a way that is no failure.
-/

namespace Shopfloor

/-- A line of which some units are left shrinks where it stands, and one of which none are left
    goes. -/
theorem Basket.minus_lines (b : Basket) {p : String} {held : Int} (q : Int)
    (hheld : b.lines.get? p = some held) :
    (q = held → (b.minus p q).lines = b.lines.erase p) ∧
      (q ≠ held → (b.minus p q).lines = b.lines.adjust p fun _ => held - q) := by
  have hquantity := quantity_of_get? hheld
  unfold minus
  dsimp only
  rw [hquantity]
  constructor
  · intro he
    exact if_pos he.symm
  · intro hne
    rw [if_neg (Ne.symm hne)]
    exact Keyed.insert_eq_adjust _ hheld _

namespace Shop

/-- The basket with an id has a line of a product. -/
def Carries (shop : Shop) (k p : String) (held : Int) : Prop :=
  ∃ b, shop.baskets.get? k = some b ∧ b.lines.get? p = some held

/-- Everything is met that it takes to put units of a product back. The basket holds as many, and
    where its owner stands there is an inventory of the product, the first of which has room. -/
structure Returnable (shop : Shop) (k p : String) (q : Int) (b : Basket) (held : Int)
    (i : Inventory) : Prop where
  basket : shop.baskets.get? k = some b
  line : b.lines.get? p = some held
  positive : 1 ≤ q
  enough : q ≤ held
  beside : ∃ spot, shop.OwnerIn b spot ∧ shop.Serves p spot i
  room : i.count + q ≤ i.capacity

/-- What a request to put units of a product back has to meet, in order. -/
def returnConditions (shop : Shop) (k p : String) (q : Int) : List Condition :=
  [.silent (∃ b, shop.baskets.get? k = some b) .notFound,
    .silent (∃ held, shop.Carries k p held) .notFound,
    ⟨∃ held, shop.Carries k p held ∧ 1 ≤ q ∧ q ≤ held, .invalidArgument,
      fun n => n = q ∨ shop.Carries k p n⟩,
    .silent (∃ i, shop.Keeps i ∧ i.product = p) .notFound,
    .silent (∃ b spot i, shop.baskets.get? k = some b ∧ shop.OwnerIn b spot ∧ shop.Offers p spot i)
      .preconditionFailed,
    ⟨∃ i, shop.ServedBy k p i ∧ i.count + q ≤ i.capacity, .invalidArgument,
      fun n => n = q ∨ ∃ i, shop.ServedBy k p i ∧ (n = i.count ∨ n = i.capacity)⟩]

variable {shop : Shop} {k p : String} {q held : Int} {b : Basket} {i : Inventory}

/-! ## What goes back -/

/-- The line of a product in a basket is one only. -/
theorem Carries.unique {n : Int} (h : shop.Carries k p held) (hn : shop.Carries k p n) :
    held = n := by
  rcases h with ⟨b, hb, hheld⟩
  rcases hn with ⟨b', hb', hn⟩
  rw [hb, Option.some.injEq] at hb'
  subst hb'
  rw [hheld, Option.some.injEq] at hn
  exact hn

/-- What is returnable goes back: one inventory gains the units, and one line loses them. The request
    is answered if the quantity can be written. -/
theorem run_of_returnable (hsound : shop.Sound)
    (hnamed : ∀ c r, shop.customers.get? c = some r → c ≠ "") {token : Option String}
    (htoken : isToken token = true) (h : shop.Returnable k p q b held i) :
    run token (.removeBasketProduct (some k) (some p) (some q)) shop =
      ((b.minus p q).logged q,
        { shop.recount (fun j => if j = i then j.count + q else j.count) with
          baskets := shop.baskets.adjust k fun b => b.minus p q }) := by
  rcases h.beside with ⟨spot, howner, hserves⟩
  have hspot := (standing_eq_some_iff hnamed b spot).2 howner
  have hhandover : shop.handover "Remove Basket Product" b p (shop.standing b) = .ok i :=
    (handover_standing_eq_ok_iff _ hsound.filed.floor b p i).2 ⟨spot, hspot, hserves⟩
  have hkept := hserves.offers.keeps
  have hrange := hsound.stocked.of_keeps hkept
  have hpos := h.positive
  rw [run_returning_of_handover htoken h.basket h.line hhandover (by omega) h.enough (by omega)
    h.room, traded_eq hsound h.basket hkept (·.minus p q) rfl q]

/-- Units go back exactly if the conditions are met. -/
theorem exists_returning_iff (hsound : shop.Sound)
    (hnamed : ∀ c r, shop.customers.get? c = some r → c ≠ "") (k p : String) (q : Int) :
    (∃ b i, shop.baskets.get? k = some b ∧
      shop.returning "Remove Basket Product" b p q (shop.standing b) = .ok i) ↔
      ∃ b held i, shop.Returnable k p q b held i := by
  have hf := hsound.filed.floor
  constructor
  · rintro ⟨b, i', hb, hreturning⟩
    rcases (returning_eq_ok_iff _ _ _ _ _ _).1 hreturning with
      ⟨i, held, hheld, hpos, hle, hi, -, hroom, -⟩
    rcases (handover_standing_eq_ok_iff _ hf b p i).1 hi with ⟨spot, hspot, hserves⟩
    have howner := (standing_eq_some_iff hnamed b spot).1 hspot
    exact ⟨b, held, i, hb, hheld, by omega, hle, ⟨spot, howner, hserves⟩, hroom⟩
  · rintro ⟨b, held, i, hback⟩
    rcases hback.beside with ⟨spot, howner, hserves⟩
    have hpos := hback.positive
    have hrange := hsound.stocked.of_keeps hserves.offers.keeps
    have hi := (handover_standing_eq_ok_iff "Remove Basket Product" hf b p i).2
      ⟨spot, (standing_eq_some_iff hnamed b spot).2 howner, hserves⟩
    exact ⟨b, _, hback.basket, (returning_eq_ok_iff _ _ _ _ _ _).2
      ⟨i, held, hback.line, by omega, hback.enough, hi, by omega, hback.room, rfl⟩⟩

/-! ## How it is refused -/

/-- What is said of a quantity that is no part of a line names the quantity and the units of the
    line. -/
theorem mem_invalidQuantity_numbers_iff (h : shop.Carries k p held) (q n : Int) :
    n ∈ (Cause.invalidQuantity (some q) p held).numbers ↔ n = q ∨ shop.Carries k p n := by
  have hline : n = held ↔ shop.Carries k p n :=
    ⟨fun hn => hn ▸ h, fun hn => (h.unique hn).symm⟩
  exact (List.mem_cons.trans (or_congr_right List.mem_singleton)).trans (or_congr_right hline)

/-- What is said of a shelf that is full names the quantity, the count and the capacity, and there is
    one shelf that it could be. -/
theorem mem_aboveCapacity_numbers_iff (hf : Filing shop.stores) (hserved : shop.ServedBy k p i)
    (q n : Int) :
    n ∈ (Cause.aboveCapacity i.id i.count q i.capacity).numbers ↔
      n = q ∨ ∃ j, shop.ServedBy k p j ∧ (n = j.count ∨ n = j.capacity) := by
  simp only [Cause.numbers, List.mem_cons, List.not_mem_nil, or_false]
  constructor
  · rintro (hn | hn | hn)
    · exact .inr ⟨i, hserved, .inl hn⟩
    · exact .inl hn
    · exact .inr ⟨i, hserved, .inr hn⟩
  · rintro (hn | ⟨j, hj, hn⟩)
    · exact .inr (.inl hn)
    · rw [← hserved.unique hf hj] at hn
      exact hn.imp_right .inr

/-- Units do not go back for the first condition that is not met. -/
theorem returning_unmet (hsound : shop.Sound)
    (hnamed : ∀ c r, shop.customers.get? c = some r → c ≠ "") {e : Fault}
    (hb : shop.baskets.get? k = some b)
    (h : shop.returning "Remove Basket Product" b p q (shop.standing b) = .error e) :
    ∃ c, ∃ cause : Cause, FirstUnmet (shop.returnConditions k p q) c ∧ c.RefusedBy cause ∧
      e = cause.fault "Remove Basket Product" := by
  have hf := hsound.filed.floor
  have hfound : ∃ b, shop.baskets.get? k = some b := ⟨b, hb⟩
  -- The checks come in the order of the conditions, so each case has met those before it.
  unfold returning at h
  cases hheld : b.lines.get? p with
  | none =>
      rw [hheld] at h
      refine ⟨_, .notInBasket (some p) b.id, .later hfound (.here ?_),
        Condition.refusedBy_silent rfl rfl, (Except.error.inj h).symm⟩
      rintro ⟨held, b', hb', hheld'⟩
      rw [hb, Option.some.injEq] at hb'
      rw [← hb', hheld] at hheld'
      cases hheld'
  | some held =>
      have hcarries : shop.Carries k p held := ⟨b, hb, hheld⟩
      rw [hheld] at h
      dsimp only at h
      by_cases hbad : q ≤ 0 ∨ held < q
      · rw [if_pos hbad] at h
        refine ⟨_, .invalidQuantity (some q) p held, .later hfound (.later ⟨held, hcarries⟩
          (.here ?_)), ⟨rfl, fun n => ?_⟩, (Except.error.inj h).symm⟩
        · rintro ⟨held', hcarries', hpos, hle⟩
          have hsame := hcarries.unique hcarries'
          omega
        · exact mem_invalidQuantity_numbers_iff hcarries q n
      rw [if_neg hbad] at h
      have henough : ∃ held, shop.Carries k p held ∧ 1 ≤ q ∧ q ≤ held :=
        ⟨held, hcarries, by omega, by omega⟩
      cases hi : shop.handover "Remove Basket Product" b p (shop.standing b) with
      | error e' =>
          rw [hi] at h
          cases h
          rcases handover_firstUnmet _ hf hnamed hb hi _ with ⟨c, cause, hunmet, hcause, he⟩
          exact ⟨c, cause, .later hfound (.later ⟨held, hcarries⟩ (.later henough hunmet)),
            hcause, he⟩
      | ok i =>
          rw [hi] at h
          have hserved := servedBy_of_handover _ hf hnamed hb hi
          have hrange := hsound.stocked.of_keeps hserved.keeps
          -- The count only grows, so it is the capacity that is in the way.
          have hlow : ¬ i.count + q < 0 := by omega
          dsimp only at h
          unfold Inventory.change at h
          rw [if_neg hlow] at h
          by_cases hfull : i.capacity < i.count + q
          · rw [if_pos hfull] at h
            refine ⟨_, .aboveCapacity i.id i.count q i.capacity, .later hfound
              (.later ⟨held, hcarries⟩ (.later henough (hserved.firstUnmet (.here ?_)))),
              ⟨rfl, fun n => ?_⟩, (Except.error.inj h).symm⟩
            · rintro ⟨j, hj, hroom⟩
              rw [← hserved.unique hf hj] at hroom
              omega
            · exact mem_aboveCapacity_numbers_iff hf hserved q n
          · rw [if_neg hfull] at h
            cases h

/-- A request to put units back that is not carried out is refused for the first condition that it
    does not meet. -/
theorem run_returning_unmet (hsound : shop.Sound)
    (hnamed : ∀ c r, shop.customers.get? c = some r → c ≠ "") {token : Option String}
    (htoken : isToken token = true) (k p : String) (q : Int)
    (hrefused : ∀ b i, shop.baskets.get? k = some b →
      shop.returning "Remove Basket Product" b p q (shop.standing b) ≠ .ok i) :
    ∃ c, ∃ cause : Cause, FirstUnmet (shop.returnConditions k p q) c ∧ c.RefusedBy cause ∧
      run token (.removeBasketProduct (some k) (some p) (some q)) shop =
        (.error (cause.fault "Remove Basket Product"), shop) := by
  cases hb : shop.baskets.get? k with
  | none =>
      have hnone : shop.baskets.find? (some k) = none := hb
      refine ⟨_, .absent .basket k, .here ?_, Condition.refusedBy_silent rfl rfl, ?_⟩
      · rintro ⟨b, hb'⟩
        rw [hb] at hb'
        cases hb'
      · refine run_of_error htoken ?_
        change (Reply.basket <$> putBackFromBasket "Remove Basket Product" _ _ _).runIn shop = _
        unfold putBackFromBasket
        rw [Act.runIn_map, runIn_bind_theBasket_none _ hnone]
        rfl
  | some b =>
      cases hreturning : shop.returning "Remove Basket Product" b p q (shop.standing b) with
      | ok i => exact absurd hreturning (hrefused b i hb)
      | error e =>
          rcases returning_unmet hsound hnamed hb hreturning with ⟨c, cause, hunmet, hcause, rfl⟩
          refine ⟨c, cause, hunmet, hcause, ?_⟩
          rw [run_returning htoken hb, hreturning]

/-! ## All together -/

/-- What a request to put units of a basket back comes to, where no customer has the empty id. Its
    conditions are that the basket holds a line of the product with as many units, the owner of the
    basket stands in an aisle, and the inventory with the least id among those of the product in that
    aisle has room for them. If they are met, that inventory gains the units and the line loses them,
    and is gone exactly if none are left; nothing else changes, and the request succeeds, as long as
    the quantity can be written. If they are not, nothing changes at all, and the request is refused
    for the first condition that it does not meet, with a failure of the kind for it unless a number
    in its words cannot be written. -/
theorem put_back_exactly (h : Reachable shop)
    (hnamed : ∀ c r, shop.customers.get? c = some r → c ≠ "") {token : Option String}
    (htoken : isToken token = true) (k p : String) (q : Int) :
    let op : Operation := .removeBasketProduct (some k) (some p) (some q)
    ((∃ reply, (run token op shop).1 = .ok reply) ↔
      (∃ b held i, shop.Returnable k p q b held i) ∧ Number.writable q = true) ∧
    (∀ b held i, shop.Returnable k p q b held i →
      run token op shop = ((b.minus p q).logged q,
        { shop.recount (fun j => if j = i then j.count + q else j.count) with
          baskets := shop.baskets.adjust k fun b => b.minus p q }) ∧
        (q = held → (b.minus p q).lines = b.lines.erase p) ∧
        (q ≠ held → (b.minus p q).lines = b.lines.adjust p fun _ => held - q)) ∧
    ((¬ ∃ b held i, shop.Returnable k p q b held i) →
      ∃ c, ∃ cause : Cause, FirstUnmet (shop.returnConditions k p q) c ∧ c.RefusedBy cause ∧
        run token op shop = (.error (cause.fault op.action), shop)) := by
  intro op
  have hsound := h.sound
  have hrefused : (¬ ∃ b held i, shop.Returnable k p q b held i) →
      ∃ c, ∃ cause : Cause, FirstUnmet (shop.returnConditions k p q) c ∧ c.RefusedBy cause ∧
        run token op shop = (.error (cause.fault "Remove Basket Product"), shop) := by
    intro hnone
    rw [← exists_returning_iff hsound hnamed] at hnone
    exact run_returning_unmet hsound hnamed htoken k p q fun b i hb hreturning =>
      hnone ⟨b, i, hb, hreturning⟩
  refine ⟨⟨?_, ?_⟩, fun b held i hback => ⟨run_of_returnable hsound hnamed htoken hback,
    b.minus_lines q hback.line⟩, hrefused⟩
  · rintro ⟨reply, hok⟩
    by_cases hback : ∃ b held i, shop.Returnable k p q b held i
    · refine ⟨hback, ?_⟩
      rcases hback with ⟨b, held, i, hback⟩
      rw [run_of_returnable hsound hnamed htoken hback] at hok
      dsimp only at hok
      exact Basket.writable_of_logged hok
    · rcases hrefused hback with ⟨c, cause, -, -, hrun⟩
      rw [hrun] at hok
      cases hok
  · rintro ⟨⟨b, held, i, hback⟩, hq⟩
    rw [run_of_returnable hsound hnamed htoken hback]
    dsimp only
    exact ⟨_, (b.minus p q).logged_of_writable hq⟩

/-- The three units in the basket of the morning go back to the aisle of the owner, where there is
    room, although the inventory in the other aisle comes first and is full. A fourth cannot. -/
theorem put_back_beside_owner :
    let shop := runAll .empty laterMorning
    let give (q : Int) : Operation := .removeBasketProduct (some "b1") (some "rye") (some q)
    (∀ c r, shop.customers.get? c = some r → c ≠ "") ∧
      (∃ reply, (run (some "key") (give 3) shop).1 = .ok reply) ∧
      ¬ ∃ reply, (run (some "key") (give 4) shop).1 = .ok reply := by
  intro shop give
  have hreach : Reachable shop := Reachable.empty.runAll laterMorning
  have htoken : isToken (some "key") = true := by decide +kernel
  have hnamed : ∀ c r, shop.customers.get? c = some r → c ≠ "" :=
    named_of_get?_eq_none (by decide +kernel)
  have hrye : ∃ i, shop.inventory? (some "i1") = some i ∧ shop.Serves "rye" ⟨"north", "1"⟩ i ∧
      i.count = 5 ∧ i.capacity = 10 :=
    exists_serves_of_alone hreach.sound.filed.floor (by decide +kernel) (by decide +kernel)
  rcases hrye with ⟨i, -, hserves, hcount, hcapacity⟩
  have hbasket : (shop.baskets.get? "b1").map (fun b => (shop.standing b, b.lines.get? "rye")) =
      some (some ⟨"north", "1"⟩, some 3) := by decide +kernel
  rcases Option.map_eq_some_iff.1 hbasket with ⟨b, hb, hlooks⟩
  rcases Prod.mk.inj hlooks with ⟨hstanding, hline⟩
  have howner := (standing_eq_some_iff hnamed b _).1 hstanding
  refine ⟨hnamed, ?_, fun hfour => ?_⟩
  · exact (put_back_exactly hreach hnamed htoken "b1" "rye" 3).1.2
      ⟨⟨b, 3, i, hb, hline, by omega, by omega, ⟨_, howner, hserves⟩, by omega⟩,
        by decide +kernel⟩
  · -- The line holds three.
    rcases (put_back_exactly hreach hnamed htoken "b1" "rye" 4).1.1 hfour with
      ⟨⟨b', held, i', hback⟩, -⟩
    have hbasket' := hback.basket
    rw [hb, Option.some.injEq] at hbasket'
    subst hbasket'
    have hline' := hback.line
    have henough := hback.enough
    rw [hline, Option.some.injEq] at hline'
    omega

/-- So the refusal of what a basket does not hold can be no failure at all. -/
theorem put_back_unsayable :
    ¬ ∀ shop, Reachable shop → (∀ c r, shop.customers.get? c = some r → c ≠ "") →
      ∀ token, isToken token = true → ∀ k p q e,
        (run token (.removeBasketProduct (some k) (some p) (some q)) shop).1 = .error e →
        ∃ action cause c, e = .failure action cause ∧
          FirstUnmet (shop.returnConditions k p q) c ∧ cause.kind = c.kind := by
  intro hall
  -- To take nothing out is refused, and the line holds one unit more than can be written.
  have hrun : (run (some "key") (.removeBasketProduct (some "b") (some "p") (some 0))
      Script.hoarded).1 = .error (.badValue .longNumber) := by decide +kernel
  rcases hall Script.hoarded Script.scripted_hoarded.reachable
    (named_of_get?_eq_none (by decide +kernel)) (some "key") (by decide +kernel)
    "b" "p" 0 _ hrun with
    ⟨action, cause, c, hfailure, -⟩
  cases hfailure

end Shop

end Shopfloor
