import Shopfloor.Proofs.Keyed.Order
import Shopfloor.Proofs.Reachable
/-!
# Shops that Differ in Order

Two shops in which the same is registered, in another order of arrival.

Every map of the shop may be in another order: the stores, what is in a store,
the shelves of an aisle, the lines of a basket, and so on down. What is in the
maps is the same, and so is the log of messages, whose order is its content.

Most of what operations look at is found by id, and what is found under an id
in alike shops is alike. The searches through all stores are another matter.
They take the first hit in the order of stores, and which hit comes first would
depend on the order if there could be two. That there is one at most is why
this file needs shops to be filed. For the same reason the stock of a product is
the same list in both shops: it is sorted by ids, which tell inventories apart.

## Main definitions

* `Aisle.Alike`, `Store.Alike`, `Basket.Alike`: Records that differ in order.
* `Reply.Alike`: Answers that differ in order.
* `Shop.Alike`: Shops that differ in order.

## Theorems

* `Shop.alike_equivalence`: To be alike is an equivalence.
* `Reply.Alike.describe_eq`: The words for alike answers are the same.
* `Shop.Alike.inventory?_eq`, `Shop.Alike.device?_eq`: Searches find the same.
* `Shop.Alike.stockOf_eq`, `Shop.Alike.standing_eq`: So does choosing an inventory.
-/

namespace Shopfloor

/-- Two aisles that differ in the order of their shelves. -/
structure Aisle.Alike (a a' : Aisle) : Prop where
  number : a.number = a'.number
  name : a.name = a'.name
  description : a.description = a'.description
  location : a.location = a'.location
  shelves : a.shelves.Reordered (· = ·) a'.shelves

/-- Two stores that differ in the order of what is in them. -/
structure Store.Alike (s s' : Store) : Prop where
  id : s.id = s'.id
  address : s.address = s'.address
  description : s.description = s'.description
  aisles : s.aisles.Reordered Aisle.Alike s'.aisles
  inventory : s.inventory.Reordered (· = ·) s'.inventory
  customers : s.customers.Reordered (· = ·) s'.customers
  baskets : s.baskets.Reordered (· = ·) s'.baskets
  devices : s.devices.Reordered (· = ·) s'.devices

/-- Two baskets that differ in the order of their lines. -/
structure Basket.Alike (b b' : Basket) : Prop where
  id : b.id = b'.id
  customer : b.customer = b'.customer
  store : b.store = b'.store
  lines : b.lines.Reordered (· = ·) b'.lines

/-- Two answers that differ in the order of what is in a record. -/
inductive Reply.Alike : Reply → Reply → Prop
  | store {s s' : Store} (h : s.Alike s') : Alike (.store s) (.store s')
  | aisle {a a' : Aisle} (h : a.Alike a') : Alike (.aisle a) (.aisle a')
  | basket {b b' : Basket} (h : b.Alike b') : Alike (.basket b) (.basket b')
  | same (r : Reply) : Alike r r

/-- Two shops in which the same is registered, in another order. -/
structure Shop.Alike (shop shop' : Shop) : Prop where
  stores : shop.stores.Reordered Store.Alike shop'.stores
  products : shop.products.Reordered (· = ·) shop'.products
  customers : shop.customers.Reordered (· = ·) shop'.customers
  baskets : shop.baskets.Reordered Basket.Alike shop'.baskets
  events : shop.events = shop'.events

/-! ### To be alike is an equivalence -/

theorem Aisle.Alike.refl (a : Aisle) : a.Alike a :=
  ⟨rfl, rfl, rfl, rfl, Keyed.reordered_refl (fun _ => rfl) _⟩

theorem Store.Alike.refl (s : Store) : s.Alike s :=
  ⟨rfl, rfl, rfl, Keyed.reordered_refl Aisle.Alike.refl _, Keyed.reordered_refl (fun _ => rfl) _,
    Keyed.reordered_refl (fun _ => rfl) _, Keyed.reordered_refl (fun _ => rfl) _,
    Keyed.reordered_refl (fun _ => rfl) _⟩

theorem Basket.Alike.refl (b : Basket) : b.Alike b :=
  ⟨rfl, rfl, rfl, Keyed.reordered_refl (fun _ => rfl) _⟩

theorem Aisle.Alike.symm {a a' : Aisle} (h : a.Alike a') : a'.Alike a :=
  ⟨h.number.symm, h.name.symm, h.description.symm, h.location.symm,
    h.shelves.symm fun _ _ => Eq.symm⟩

theorem Store.Alike.symm {s s' : Store} (h : s.Alike s') : s'.Alike s :=
  ⟨h.id.symm, h.address.symm, h.description.symm, h.aisles.symm fun _ _ => Aisle.Alike.symm,
    h.inventory.symm fun _ _ => Eq.symm, h.customers.symm fun _ _ => Eq.symm,
    h.baskets.symm fun _ _ => Eq.symm, h.devices.symm fun _ _ => Eq.symm⟩

theorem Basket.Alike.symm {b b' : Basket} (h : b.Alike b') : b'.Alike b :=
  ⟨h.id.symm, h.customer.symm, h.store.symm, h.lines.symm fun _ _ => Eq.symm⟩

theorem Aisle.Alike.trans {a b c : Aisle} (h : a.Alike b) (h' : b.Alike c) : a.Alike c :=
  ⟨h.number.trans h'.number, h.name.trans h'.name, h.description.trans h'.description,
    h.location.trans h'.location, h.shelves.trans h'.shelves fun _ _ _ => Eq.trans⟩

theorem Store.Alike.trans {a b c : Store} (h : a.Alike b) (h' : b.Alike c) : a.Alike c :=
  ⟨h.id.trans h'.id, h.address.trans h'.address, h.description.trans h'.description,
    h.aisles.trans h'.aisles fun _ _ _ => Aisle.Alike.trans,
    h.inventory.trans h'.inventory fun _ _ _ => Eq.trans,
    h.customers.trans h'.customers fun _ _ _ => Eq.trans,
    h.baskets.trans h'.baskets fun _ _ _ => Eq.trans,
    h.devices.trans h'.devices fun _ _ _ => Eq.trans⟩

theorem Basket.Alike.trans {a b c : Basket} (h : a.Alike b) (h' : b.Alike c) : a.Alike c :=
  ⟨h.id.trans h'.id, h.customer.trans h'.customer, h.store.trans h'.store,
    h.lines.trans h'.lines fun _ _ _ => Eq.trans⟩

/-- To differ in nothing but order is an equivalence of shops. -/
theorem Shop.alike_equivalence : Equivalence Shop.Alike := by
  constructor
  · intro shop
    exact ⟨Keyed.reordered_refl Store.Alike.refl _, Keyed.reordered_refl (fun _ => rfl) _,
      Keyed.reordered_refl (fun _ => rfl) _, Keyed.reordered_refl Basket.Alike.refl _, rfl⟩
  · intro shop shop' h
    exact ⟨h.stores.symm fun _ _ => Store.Alike.symm, h.products.symm fun _ _ => Eq.symm,
      h.customers.symm fun _ _ => Eq.symm, h.baskets.symm fun _ _ => Basket.Alike.symm,
      h.events.symm⟩
  · intro a b c h h'
    exact ⟨h.stores.trans h'.stores fun _ _ _ => Store.Alike.trans,
      h.products.trans h'.products fun _ _ _ => Eq.trans,
      h.customers.trans h'.customers fun _ _ _ => Eq.trans,
      h.baskets.trans h'.baskets fun _ _ _ => Basket.Alike.trans, h.events.trans h'.events⟩

/-! ### The words for alike records -/

theorem Aisle.Alike.describe_eq {a a' : Aisle} (h : a.Alike a') : a.describe = a'.describe := by
  have hkeys : a.shelves.sortedKeys = a'.shelves.sortedKeys :=
    congrArg (List.map Prod.fst) h.shelves.sorted_eq
  unfold Aisle.describe
  rw [h.number, h.name, h.location, h.description, hkeys]

theorem Store.Alike.describe_eq {s s' : Store} (h : s.Alike s') : s.describe = s'.describe := by
  unfold Store.describe
  rw [h.id, h.address, h.description, h.aisles.size_eq, h.inventory.size_eq, h.customers.size_eq,
    h.baskets.size_eq, h.devices.size_eq]

theorem Basket.Alike.describe_eq {b b' : Basket} (h : b.Alike b') : b.describe = b'.describe := by
  have hwritable : b.isWritable = b'.isWritable := (h.lines.perm.map Prod.snd).all_eq
  unfold Basket.describe
  rw [hwritable, h.id, h.customer, h.store, h.lines.sorted_eq]

/-- The words for a record do not depend on the order of what is in it. -/
theorem Reply.Alike.describe_eq {r r' : Reply} (h : r.Alike r') : r.describe = r'.describe := by
  cases h with
  | store h => exact congrArg Except.ok h.describe_eq
  | aisle h => exact congrArg Except.ok h.describe_eq
  | basket h => exact h.describe_eq
  | same r => rfl

/-- The line about an operation names the same numbers for alike replies. -/
theorem Reply.Alike.logged_eq {r r' : Reply} (h : r.Alike r') (op : Operation) :
    op.logged r = op.logged r' := by
  cases h with
  | same r => rfl
  | _ => cases op <;> rfl

theorem Basket.Alike.quantity_eq {b b' : Basket} (h : b.Alike b') (p : String) :
    b.quantity p = b'.quantity p := by
  unfold Basket.quantity
  rw [h.lines.get?_eq]

namespace Shop

variable {shop shop' : Shop}

/-- What a store owns in one of two alike shops, it owns in the other. -/
theorem Alike.owns_iff (h : shop.Alike shop') {α : Type} {f : Store → Keyed α}
    (hf : ∀ s s', s.Alike s' → (f s).Reordered (· = ·) (f s')) (home id : String) (a : α) :
    (∃ s, shop.stores.get? home = some s ∧ (f s).get? id = some a) ↔
      ∃ s, shop'.stores.get? home = some s ∧ (f s).get? id = some a := by
  have hrel := h.stores.get? home
  generalize shop.stores.get? home = x at hrel
  generalize shop'.stores.get? home = y at hrel
  cases hrel with
  | none => simp only [reduceCtorEq, false_and, exists_false]
  | some hs => simp only [Option.some.injEq, exists_eq_left', (hf _ _ hs).get?_eq]

theorem Alike.keeps_iff (h : shop.Alike shop') (i : Inventory) :
    shop.Keeps i ↔ shop'.Keeps i :=
  h.owns_iff (fun _ _ hs => hs.inventory) i.spot.store i.id i

theorem Alike.keepsDevice_iff (h : shop.Alike shop') (d : Device) :
    shop.KeepsDevice d ↔ shop'.KeepsDevice d :=
  h.owns_iff (fun _ _ hs => hs.devices) d.spot.store d.id d

/-- The search for an inventory finds the same in both shops. -/
theorem Alike.inventory?_eq (h : shop.Alike shop') (hf : Filing shop.stores)
    (hf' : Filing shop'.stores) (id : Option String) :
    shop.inventory? id = shop'.inventory? id := by
  cases id with
  | none => rw [inventory?_none, inventory?_none]
  | some k =>
      refine Option.ext fun i => ?_
      rw [inventory?_eq_some_iff hf, inventory?_eq_some_iff hf', h.keeps_iff]

/-- The search for a device finds the same in both shops. -/
theorem Alike.device?_eq (h : shop.Alike shop') (hf : Filing shop.stores)
    (hf' : Filing shop'.stores) (id : Option String) : shop.device? id = shop'.device? id := by
  cases id with
  | none => rw [device?_none, device?_none]
  | some k =>
      refine Option.ext fun d => ?_
      rw [device?_eq_some_iff hf, device?_eq_some_iff hf', h.keepsDevice_iff]

/-- The stock of a product is the same list in both shops. -/
theorem Alike.stockOf_eq (h : shop.Alike shop') (hf : Filing shop.stores) (p : String) :
    shop.stockOf p = shop'.stockOf p := by
  have hperm : (shop.stores.values.flatMap fun s => s.inventory.values).Perm
      (shop'.stores.values.flatMap fun s => s.inventory.values) :=
    h.stores.flatMap_perm fun s s' hs => hs.inventory.perm.map Prod.snd
  -- Ids tell these inventories apart, since all of them are kept.
  have hkept : ∀ i ∈ (shop.stores.values.flatMap fun s => s.inventory.values).filter
      (fun i => i.product == p), shop.Keeps i := fun i hi =>
    ((mem_stockOf_iff hf p i).1 (List.mem_mergeSort.2 hi)).1
  exact mergeSort_eq_of_perm Inventory.id (hperm.filter _) fun i hi j hj hid =>
    (hkept i hi).eq_of_id_eq hf (hkept j hj) hid

/-- The owner of a basket stands at the same place in both shops. -/
theorem Alike.standing_eq (h : shop.Alike shop') {b b' : Basket} (hb : b.Alike b') :
    shop.standing b = shop'.standing b' := by
  unfold standing
  rw [hb.customer]
  split
  · rfl
  · rfl
  · rw [h.customers.get?_eq]

/-- The same inventory is chosen in both shops. -/
theorem Alike.choose_eq (h : shop.Alike shop') (hf : Filing shop.stores) (p : String)
    (spot : Option AisleSpot) :
    choose (shop.stockOf p) spot = choose (shop'.stockOf p) spot := by
  rw [h.stockOf_eq hf]

end Shop

end Shopfloor
