import Shopfloor.Proofs.Order.Operation
/-!
# The Order of Arrival

No operation shows in which order things were registered.

Two shops may have been built up along different runs and hold the same records
in another order. Whatever is asked of them then, they answer the same, in the
same words, and they refuse the same for the same cause. What they are
afterwards differs again in nothing but order, so no later operation finds a
difference either.

Listing all stores is the one thing that shows the order, and it is not an
operation.

## Main definitions

* `Shop.otherMorning`: A morning in which the stores open the other way round.

## Theorems

* `Sound.run_agree`: An operation comes to the same end in alike shops.
* `Sound.runAll_alike`: Runs keep shops alike.
* `order_unobservable`: An operation cannot tell reachable shops apart that are alike.
-/

namespace Shopfloor

namespace Shop

open Act

variable {shop shop' : Shop}

/-- An operation comes to the same end in sound shops that are alike. -/
theorem Sound.run_agree (hs : shop.Sound) (hs' : shop'.Sound) (h : shop.Alike shop')
    (token : Option String) (op : Operation) :
    SameEnd Reply.Alike (Shop.run token op shop).1 (Shop.run token op shop').1 ∧
      (Shop.run token op shop).2.Alike (Shop.run token op shop').2 := by
  have hagree := perform_agree hs hs' h token op
  unfold Agree at hagree
  unfold Shop.run
  generalize (perform token op).runIn shop = end₁ at hagree ⊢
  generalize (perform token op).runIn shop' = end₂ at hagree ⊢
  cases hagree with
  | ok hdone => exact ⟨.ok hdone.1, hdone.2⟩
  | error e halike => exact ⟨.error e, halike⟩

/-- The same operations, asked of sound shops that are alike, leave them alike. -/
theorem Sound.runAll_alike (hs : shop.Sound) (hs' : shop'.Sound) (h : shop.Alike shop')
    (calls : List (Option String × Operation)) :
    (Shop.runAll shop calls).Alike (Shop.runAll shop' calls) := by
  induction calls generalizing shop shop' with
  | nil => exact h
  | cons call calls ih =>
      exact ih (hs.run call.1 call.2) (hs'.run call.1 call.2) (hs.run_agree hs' h call.1 call.2).2

/-- The order of arrival is not observable. Of two reachable shops that differ in nothing else an
    operation gets the same fault, or answers that differ in nothing else and read the same; and
    the shops afterwards differ in nothing else. -/
theorem order_unobservable (h₁ : Reachable shop) (h₂ : Reachable shop') (h : shop.Alike shop')
    (token : Option String) (op : Operation) :
    SameEnd (fun r r' => r.Alike r' ∧ r.describe = r'.describe)
        (Shop.run token op shop).1 (Shop.run token op shop').1 ∧
      (Shop.run token op shop).2.Alike (Shop.run token op shop').2 := by
  have hagree := h₁.sound.run_agree h₂.sound h token op
  exact ⟨hagree.1.mono fun r r' hr => ⟨hr, hr.describe_eq⟩, hagree.2⟩

/-- The morning, but that the stores open the other way round. -/
def otherMorning : List (Option String × Operation) :=
  (morning.take 2).reverse ++ morning.drop 2

theorem mornings_alike : (Shop.runAll .empty morning).Alike (Shop.runAll .empty otherMorning) := by
  have hopened : (Shop.runAll .empty (morning.take 2)).Alike
      (Shop.runAll .empty (morning.take 2).reverse) :=
    ⟨Keyed.reordered_of_perm Store.Alike.refl (by decide +kernel),
      Keyed.reordered_of_perm (fun _ => rfl) (by decide +kernel),
      Keyed.reordered_of_perm (fun _ => rfl) (by decide +kernel),
      Keyed.reordered_of_perm Basket.Alike.refl (by decide +kernel), by decide +kernel⟩
  have hrest := (Reachable.empty.runAll _).sound.runAll_alike (Reachable.empty.runAll _).sound
    hopened (morning.drop 2)
  unfold Shop.runAll at hrest ⊢
  rw [← List.foldl_append, ← List.foldl_append, List.take_append_drop] at hrest
  exact hrest

/-- Which store opened first does not show when the basket of the morning is emptied. -/
theorem first_store_unobservable :
    runAll .empty morning ≠ runAll .empty otherMorning ∧
      SameEnd (fun r r' => r.Alike r' ∧ r.describe = r'.describe)
        (Shop.run (some "key") (.clearBasket (some "b1")) (Shop.runAll .empty morning)).1
        (Shop.run (some "key") (.clearBasket (some "b1")) (Shop.runAll .empty otherMorning)).1 ∧
      (Shop.run (some "key") (.clearBasket (some "b1")) (Shop.runAll .empty morning)).2.Alike
        (Shop.run (some "key") (.clearBasket (some "b1")) (Shop.runAll .empty otherMorning)).2 :=
  ⟨by decide +kernel, order_unobservable (Reachable.empty.runAll morning)
    (Reachable.empty.runAll otherMorning) mornings_alike (some "key") (.clearBasket (some "b1"))⟩

end Shop

end Shopfloor
