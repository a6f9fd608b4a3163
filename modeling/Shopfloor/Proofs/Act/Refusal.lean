import Shopfloor.Proofs.Act.Handover
import Shopfloor.Proofs.Number.Integer
/-!
# How Operations Fail

The faults that an operation can end in, read off its acts.

`Refuses` collects them. It follows the shape of an act as `Meets` does, but
looks at the other end: whatever fault comes out of an act, in a given shop,
has some property. Checks pass their faults on, changes have none.

The property is always the same. A fault is `OfCause` if it is what one of the
usual causes ends in, and something is known of the numbers that the cause names.
If all of them can be written, the fault is `Sayable`: a failure of one of the
kinds that operations report, with words for it. Otherwise it may also be the
one fault that is no failure. Two things are needed. The operation has to give
what the record of a new thing needs, and numbers that can be written
themselves; `Operation.Given` says so, one constructor for each operation. And
what is known of numbers has to be true of the counts and capacities on the
shelves, which is `Shop.Legible`, and of the units in a basket that a refusal
names. What is known may also be nothing; then any sound shop will do.

## Main definitions

* `Fault.Sayable`: A failure of the usual kinds with words for it.
* `Fault.OfCause`: What a cause of the usual kinds ends in.
* `Operation.Given`: An operation that gives what it needs.
* `Shop.Legible`: Something is known of the numbers on the shelves.
* `Act.Refuses`: Every fault of an act has a property.

## Theorems

* `Fault.OfCause.sayable`, `Fault.OfCause.sayable_or_long`: What is known of a fault of a cause.
* `refuses_bind`: One step after another.
* `Shop.carryOut_refuses`: How operations fail.
* `Shop.carryOut_unsayable`: The one way in which they fail without words.
-/

namespace Shopfloor

/-- The kinds of failure that a command line is answered with. -/
def Kind.answers : List Kind :=
  [.notFound, .duplicateEntity, .invalidArgument, .preconditionFailed, .unsupportedOperation,
    .parseError]

/-- A failure of one of the kinds that are answered with, whose words can be made. -/
inductive Fault.Sayable : Fault → Prop
  | failure (action : String) {cause : Cause} (hkind : cause.kind ∈ Kind.answers)
    (hnumbers : ∀ n ∈ cause.numbers, Number.writable n = true) : Sayable (.failure action cause)

/-- Only a file that cannot be read is reported under another kind. -/
theorem Cause.kind_mem_answers {cause : Cause}
    (h : ∀ error path, cause ≠ .unreadableFile error path) :
    cause.kind ∈ Kind.answers := by
  cases cause with
  | unreadableFile error path => exact absurd rfl (h error path)
  | _ => exact List.mem_of_elem_eq_true rfl

/-- A cause whose numbers can all be written is put into words. -/
theorem Cause.fault_of_writable (action : String) {cause : Cause}
    (h : ∀ n ∈ cause.numbers, Number.writable n = true) :
    cause.fault action = .failure action cause := if_pos (List.all_eq_true.2 h)

/-- A cause that names a number that cannot be written is not. -/
theorem Cause.fault_of_long (action : String) {cause : Cause} {n : Int} (hn : n ∈ cause.numbers)
    (hlong : ¬ Number.writable n = true) : cause.fault action = .badValue .longNumber :=
  if_neg fun h => hlong (List.all_eq_true.1 h n hn)

/-- What a cause of one of the usual kinds ends in. Of the numbers that the cause names something is
    known. -/
inductive Fault.OfCause (W : Int → Prop) : Fault → Prop
  | intro (action : String) {cause : Cause} (hkind : cause.kind ∈ Kind.answers)
    (hnumbers : ∀ n ∈ cause.numbers, W n) : OfCause W (cause.fault action)

/-- If what is known of numbers is that they can be written, there are words for the fault. -/
theorem Fault.OfCause.sayable {e : Fault} (h : e.OfCause (Number.writable · = true)) :
    e.Sayable := by
  rcases h with ⟨action, hkind, hnumbers⟩
  rw [Cause.fault_of_writable action hnumbers]
  exact .failure action hkind hnumbers

section OfCause

variable {W : Int → Prop}

/-- Whatever is known of numbers, there are words for the fault or it names one that is too long. -/
theorem Fault.OfCause.sayable_or_long {e : Fault} (h : e.OfCause W) :
    e.Sayable ∨ e = .badValue .longNumber := by
  rcases h with @⟨action, cause, hkind, -⟩
  by_cases hall : ∀ n ∈ cause.numbers, Number.writable n = true
  · exact .inl (Fault.OfCause.intro action hkind hall).sayable
  · simp only [not_forall] at hall
    rcases hall with ⟨n, hn, hlong⟩
    exact .inr (Cause.fault_of_long action hn hlong)

theorem Cause.fault_ofCause (action : String) {cause : Cause}
    (hfile : ∀ error path, cause ≠ .unreadableFile error path) (h : ∀ n ∈ cause.numbers, W n) :
    (cause.fault action).OfCause W := .intro action (kind_mem_answers hfile) h

theorem Cause.fault_ofCause_of_nil (action : String) {cause : Cause}
    (hfile : ∀ error path, cause ≠ .unreadableFile error path) (hnumbers : cause.numbers = []) :
    (cause.fault action).OfCause W :=
  fault_ofCause action hfile fun _ hn => absurd (hnumbers ▸ hn) List.not_mem_nil

/-- A failure that names no number. -/
theorem Fault.ofCause_of_nil (action : String) {cause : Cause}
    (hfile : ∀ error path, cause ≠ .unreadableFile error path) (hnumbers : cause.numbers = []) :
    (Fault.failure action cause).OfCause W := by
  have hnone : ∀ n ∈ cause.numbers, Number.writable n = true :=
    fun _ hn => absurd (hnumbers ▸ hn) List.not_mem_nil
  rw [← Cause.fault_of_writable action hnone]
  exact Cause.fault_ofCause_of_nil action hfile hnumbers

/-- There are words for a failure that names no number. -/
theorem Fault.sayable_of_nil (action : String) {cause : Cause}
    (hfile : ∀ error path, cause ≠ .unreadableFile error path) (hnumbers : cause.numbers = []) :
    (Fault.failure action cause).Sayable := (ofCause_of_nil action hfile hnumbers).sayable

/-- What a record refuses because of a check has the words of that check. -/
theorem Fault.ofCause_of_check {α : Type} {c : Prop} [Decidable c] {refusal : Fault} {a : α}
    {e : Fault} (h : (if c then .error refusal else .ok a : Except Fault α) = .error e)
    (hrefusal : refusal.OfCause W) : e.OfCause W := by
  split at h
  · cases h
    exact hrefusal
  · cases h

end OfCause

/-- An operation that gives what it needs: the texts without which no record can be made, and numbers
    that can be written. -/
inductive Operation.Given : Operation → Prop
  | provisionStore (id name address : String) : Given (.provisionStore id name address)
  | showStore (id : Option String) : Given (.showStore id)
  | updateStore (id description address : Option String) :
    Given (.updateStore id description address)
  | deleteStore (id : Option String) : Given (.deleteStore id)
  | provisionAisle (store : Option String) (number name : String)
    (description location : Option String) :
    Given (.provisionAisle store number name description location)
  | showAisle (store number : Option String) : Given (.showAisle store number)
  | provisionShelf (store number : Option String) (id name : String)
    (level description temperature : Option String) :
    Given (.provisionShelf store number id name level description temperature)
  | showShelf (store number id : Option String) : Given (.showShelf store number id)
  | provisionProduct (id name : String) (description size category : Option String)
    (price : Option Binary64) (temperature : Option String) :
    Given (.provisionProduct id name description size category price temperature)
  | showProduct (id : Option String) : Given (.showProduct id)
  | provisionInventory (id : String) (store number shelf : Option String) {capacity count : Int}
    (hcapacity : Number.writable capacity = true) (hcount : Number.writable count = true)
    (product type : Option String) :
    Given (.provisionInventory id store number shelf capacity count product type)
  | showInventory (id : Option String) : Given (.showInventory id)
  | updateInventory (id : Option String) {delta : Int} (hdelta : Number.writable delta = true) :
    Given (.updateInventory id delta)
  | provisionCustomer (id firstName lastName : String) (type : Option String)
    (email account : String) : Given (.provisionCustomer id firstName lastName type email account)
  | showCustomer (id : Option String) : Given (.showCustomer id)
  | updateCustomer (id store number : Option String) : Given (.updateCustomer id store number)
  | provisionBasket (id : String) : Given (.provisionBasket id)
  | showBasket (id : Option String) : Given (.showBasket id)
  | getCustomerBasket (customer : Option String) : Given (.getCustomerBasket customer)
  | assignCustomerBasket (customer basket : Option String) :
    Given (.assignCustomerBasket customer basket)
  | addBasketProduct (basket product : Option String) {quantity : Int}
    (hquantity : Number.writable quantity = true) :
    Given (.addBasketProduct basket product quantity)
  | removeBasketProduct (basket product : Option String) {quantity : Int}
    (hquantity : Number.writable quantity = true) :
    Given (.removeBasketProduct basket product quantity)
  | clearBasket (basket : Option String) : Given (.clearBasket basket)
  | provisionDevice (id name type : String) (store number : Option String) :
    Given (.provisionDevice id name type store number)
  | showDevice (id : Option String) : Given (.showDevice id)
  | raiseEvent (device event : Option String) : Given (.raiseEvent device event)
  | issueCommand (device command : Option String) : Given (.issueCommand device command)

/-- Something is known of the counts and capacities on the shelves. -/
def Shop.Legible (shop : Shop) (W : Int → Prop) : Prop :=
  ∀ i, shop.Keeps i → W i.count ∧ W i.capacity

/-- The units in a basket that a refusal to take them out names. -/
def Shop.refusedUnits (shop : Shop) : Operation → Option Int
  | .removeBasketProduct basket product (some quantity) =>
    ((shop.baskets.find? basket).bind fun b => b.lines.find? product).filter fun held =>
      quantity ≤ 0 ∨ held < quantity
  | _ => none

namespace Act

variable {α β : Type} {shop : Shop} {P : Fault → Prop}

/-- Every fault that an act ends in, in a given shop, has a property. -/
def Refuses (act : Act α) (shop : Shop) (P : Fault → Prop) : Prop :=
  ∀ e shop', act.runIn shop = (.error e, shop') → P e

theorem refuses_pure (a : α) : (pure a : Act α).Refuses shop P := by
  intro e shop' h
  cases h

theorem refuses_throw {e : Fault} (he : P e) : (throw e : Act α).Refuses shop P := by
  intro e' shop' h
  cases h
  exact he

theorem refuses_fail {action : String} {c : Cause} (h : P (c.fault action)) :
    (fail action c : Act α).Refuses shop P := refuses_throw h

theorem refuses_ofExcept {x : Except Fault α} (h : ∀ e, x = .error e → P e) :
    (ofExcept x).Refuses shop P := by
  cases x with
  | ok a => exact refuses_pure a
  | error e => exact refuses_throw (h e rfl)

/-- A fault of two steps is one of the first, or of the second where the first has led. -/
theorem refuses_bind {x : Act β} {f : β → Act α} (hx : x.Refuses shop P)
    (hf : ∀ b shop', x.runIn shop = (.ok b, shop') → (f b).Refuses shop' P) :
    (x >>= f).Refuses shop P := by
  intro e shop' h
  rw [runIn_bind] at h
  rcases hr : x.runIn shop with ⟨r, shop₁⟩
  rw [hr] at h
  cases r with
  | ok b => exact hf b shop₁ hr e shop' h
  | error e' =>
      cases h
      exact hx _ _ hr

/-- The same behind a step that is known to look only. -/
theorem refuses_bind_look {x : Act β} {f : β → Act α} {R : β → Prop} (hx : x.Refuses shop P)
    (hlook : x.Meets shop fun b shop' => shop' = shop ∧ R b)
    (hf : ∀ b, R b → (f b).Refuses shop P) : (x >>= f).Refuses shop P := by
  refine refuses_bind hx fun b shop' h => ?_
  rcases hlook.ok b shop' h with ⟨rfl, hb⟩
  exact hf b hb

theorem refuses_bind_get {f : Shop → Act α} (hf : (f shop).Refuses shop P) :
    (get >>= f).Refuses shop P := hf

theorem refuses_bind_modify {g : Shop → Shop} {f : PUnit → Act α}
    (hf : (f ⟨⟩).Refuses (g shop) P) : (modify g >>= f).Refuses shop P := hf

theorem refuses_bind_pure {b : β} {f : β → Act α} (hf : (f b).Refuses shop P) :
    (pure b >>= f).Refuses shop P := hf

theorem refuses_bind_ofExcept {x : Except Fault β} {f : β → Act α}
    (hx : ∀ e, x = .error e → P e) (hf : ∀ b, x = .ok b → (f b).Refuses shop P) :
    (ofExcept x >>= f).Refuses shop P := by
  cases x with
  | ok b => exact refuses_bind_pure (hf b rfl)
  | error e => exact refuses_bind (refuses_throw (hx e rfl)) nofun

theorem refuses_map {g : α → β} {act : Act α} (h : act.Refuses shop P) :
    (g <$> act).Refuses shop P := by
  rw [map_eq_pure_bind]
  exact refuses_bind h fun a shop' _ => refuses_pure _

/-- An act that succeeds has no fault. -/
theorem refuses_of_succeeds {Q : α → Shop → Prop} {act : Act α} (h : act.Succeeds shop Q) :
    act.Refuses shop P := by
  rcases h with ⟨a, shop₁, hrun, -⟩
  intro e shop' he
  rw [hrun] at he
  cases he

/-- A check that ends the act unless it is passed. -/
theorem refuses_unless {c : Prop} [Decidable c] {action : String} {cause : Cause}
    {rest : Unit → Act α} (hc : c → P (cause.fault action))
    (h : ¬ c → (rest ()).Refuses shop P) :
    (if c then fail action cause >>= rest else rest ()).Refuses shop P := by
  by_cases hcase : c
  · rw [if_pos hcase]
    exact refuses_bind (refuses_fail (hc hcase)) nofun
  · rw [if_neg hcase]
    exact h hcase

end Act

section Records

variable {W : Int → Prop}

theorem Choice.require_refused {α : Type} [Choice α] {action : String} {given : Option String}
    (e : Fault)
    (h : Choice.require (α := α) action given = .error e) : e.OfCause W := by
  unfold Choice.require at h
  split at h
  · cases h
  · cases h
    exact Fault.ofCause_of_nil _ nofun rfl

theorem Store.getAisle_refused {s : Store} {number : Option String} (e : Fault)
    (h : s.getAisle number = .error e) : e.OfCause W := by
  unfold getAisle at h
  split at h
  · cases h
  · cases h
    exact Fault.ofCause_of_nil _ nofun rfl

theorem Aisle.getShelf_refused {a : Aisle} {id : Option String} (e : Fault)
    (h : a.getShelf id = .error e) : e.OfCause W := by
  unfold getShelf at h
  split at h
  · cases h
  · cases h
    exact Fault.ofCause_of_nil _ nofun rfl

theorem Store.getShelf_refused {s : Store} {number id : Option String} (e : Fault)
    (h : s.getShelf number id = .error e) : e.OfCause W := by
  unfold getShelf at h
  cases ha : s.getAisle number with
  | ok a =>
      rw [ha] at h
      exact Aisle.getShelf_refused e h
  | error e' =>
      rw [ha] at h
      cases h
      exact getAisle_refused _ ha

theorem Store.addAisle_refused {s : Store} {a : Aisle} (e : Fault)
    (h : s.addAisle a = .error e) : e.OfCause W :=
  Fault.ofCause_of_check h (Fault.ofCause_of_nil _ nofun rfl)

theorem Aisle.addShelf_refused {a : Aisle} {b : Shelf} (e : Fault)
    (h : a.addShelf b = .error e) : e.OfCause W :=
  Fault.ofCause_of_check h (Fault.ofCause_of_nil _ nofun rfl)

theorem Store.addInventory_refused {s : Store} {i : Inventory} (e : Fault)
    (h : s.addInventory i = .error e) : e.OfCause W :=
  Fault.ofCause_of_check h (Fault.ofCause_of_nil _ nofun rfl)

theorem Store.addDevice_refused {s : Store} {d : Device} (e : Fault)
    (h : s.addDevice d = .error e) : e.OfCause W :=
  Fault.ofCause_of_check h (Fault.ofCause_of_nil _ nofun rfl)

theorem classifyDevice_refused {type : String} (e : Fault) (h : classifyDevice type = .error e) :
    e.OfCause W := by
  unfold classifyDevice at h
  split at h
  · cases h
  · split at h
    · cases h
    · cases h
      exact Fault.ofCause_of_nil _ nofun rfl

/-- A change of a count names only the count, the capacity and the change. -/
theorem Inventory.change_refused {i : Inventory} {delta : Int} {action : String}
    (hcount : W i.count) (hcapacity : W i.capacity) (hdelta : W delta) (e : Fault)
    (h : i.change delta action = .error e) :
    e.OfCause W := by
  unfold change at h
  split at h
  · rw [← Except.error.inj h]
    refine Cause.fault_ofCause action nofun ?_
    exact List.forall_mem_cons.2 ⟨hcount, List.forall_mem_singleton.2 hdelta⟩
  · split at h
    · rw [← Except.error.inj h]
      refine Cause.fault_ofCause action nofun ?_
      exact List.forall_mem_cons.2
        ⟨hcount, List.forall_mem_cons.2 ⟨hdelta, List.forall_mem_singleton.2 hcapacity⟩⟩
    · cases h

end Records

namespace Shop

variable {shop : Shop} {W : Int → Prop} (action : String)

open Act

/-! ## Looking up -/

theorem found_refuses {α : Type} (noun : Noun) (id : Option String) (x : Option α) :
    (found action noun id x).Refuses shop (Fault.OfCause W) := by
  cases x with
  | none => exact refuses_fail (Cause.fault_ofCause_of_nil _ nofun rfl)
  | some a => exact refuses_pure a

theorem theStore_refuses (id : Option String) :
    (theStore action id).Refuses shop (Fault.OfCause W) :=
  refuses_bind_get (found_refuses action .store id _)

theorem theProduct_refuses (id : Option String) :
    (theProduct action id).Refuses shop (Fault.OfCause W) :=
  refuses_bind_get (found_refuses action .product id _)

theorem theInventory_refuses (id : Option String) :
    (theInventory action id).Refuses shop (Fault.OfCause W) :=
  refuses_bind_get (found_refuses action .inventory id _)

theorem theCustomer_refuses (id : Option String) :
    (theCustomer action id).Refuses shop (Fault.OfCause W) :=
  refuses_bind_get (found_refuses action .customer id _)

theorem theBasket_refuses (id : Option String) :
    (theBasket action id).Refuses shop (Fault.OfCause W) :=
  refuses_bind_get (found_refuses action .basket id _)

theorem theDevice_refuses (id : Option String) :
    (theDevice action id).Refuses shop (Fault.OfCause W) :=
  refuses_bind_get (found_refuses action .device id _)

/-! ## Registering -/

/-- A refusal of an id that is taken. -/
theorem refuses_unless_taken {α β : Type} {x : Option β} {noun : Noun} {id : String}
    {rest : Unit → Act α} (h : (rest ()).Refuses shop (Fault.OfCause W)) :
    (if x.isSome = true then fail action (.present noun id) >>= rest else rest ()).Refuses shop
      (Fault.OfCause W) :=
  refuses_unless (fun _ => Cause.fault_ofCause_of_nil _ nofun rfl) fun _ => h

/-- A change and an answer have no fault. -/
theorem refuses_write {α : Type} {f : Shop → Shop} {a : α} {P : Fault → Prop} :
    (modify f >>= fun _ => pure a : Act α).Refuses shop P :=
  refuses_bind_modify (refuses_pure a)

theorem openStore_refuses (id name address : String) :
    (openStore action (some id) (some name) (some address)).Refuses shop (Fault.OfCause W) := by
  unfold openStore
  exact refuses_bind_get (refuses_unless_taken action refuses_write)

/-- Reading where an aisle lies, which need not be said. -/
theorem place_refuses (location : Option String) {α : Type} {rest : Option AisleLocation → Act α}
    (h : ∀ place, (rest place).Refuses shop (Fault.OfCause W)) :
    (match location with
      | some l => (some <$> Act.ofExcept (Choice.require (α := AisleLocation) action (some l))) >>=
          rest
      | none => pure none >>= rest).Refuses shop (Fault.OfCause W) := by
  cases location with
  | none => exact refuses_bind_pure (h none)
  | some l =>
      dsimp only
      rw [map_eq_pure_bind, bind_assoc]
      exact refuses_bind_ofExcept Choice.require_refused fun place _ => h (some place)

theorem openAisle_refuses (store : Option String) (number name : String)
    (description location : Option String) :
    (openAisle action store (some number) (some name) description location).Refuses shop
      (Fault.OfCause W) := by
  unfold openAisle
  refine place_refuses action location fun place => ?_
  refine refuses_bind_look (theStore_refuses action store) (theStore_meets action store)
    fun s _ => ?_
  exact refuses_bind_ofExcept Store.addAisle_refused fun s' _ => refuses_write

theorem putUpShelf_refuses (store number : Option String) (id name : String)
    (level description temperature : Option String) :
    (putUpShelf action store number (some id) (some name) level description temperature).Refuses
      shop (Fault.OfCause W) := by
  unfold putUpShelf
  refine refuses_bind_ofExcept Choice.require_refused fun height _ => ?_
  refine refuses_bind_ofExcept Choice.require_refused fun warmth _ => ?_
  refine refuses_bind_look (theStore_refuses action store) (theStore_meets action store)
    fun s _ => ?_
  refine refuses_bind_ofExcept Store.getAisle_refused fun a _ => ?_
  exact refuses_bind_ofExcept Aisle.addShelf_refused fun a' _ => refuses_write

theorem chargeable_refuses (price : Option Binary64) :
    (chargeable action price).Refuses shop (Fault.OfCause W) := by
  cases price with
  | none => exact refuses_fail (Cause.fault_ofCause_of_nil _ nofun rfl)
  | some x =>
      unfold chargeable
      dsimp only
      split
      · exact refuses_fail (Cause.fault_ofCause_of_nil _ nofun rfl)
      · exact refuses_pure x

theorem addProduct_refuses (id name : String) (description size category : Option String)
    (price : Option Binary64) (temperature : Option String) :
    (addProduct action (some id) (some name) description size category price temperature).Refuses
      shop (Fault.OfCause W) := by
  unfold addProduct
  refine refuses_bind_look (chargeable_refuses action price) (chargeable_meets action price)
    fun x _ => ?_
  refine refuses_bind_ofExcept Choice.require_refused fun warmth _ => ?_
  exact refuses_bind_get (refuses_unless_taken action refuses_write)

theorem startingCount_refuses {n : Int} (hn : W n) :
    (startingCount action (some n)).Refuses shop (Fault.OfCause W) := by
  unfold startingCount
  dsimp only
  split
  · refine refuses_fail (Cause.fault_ofCause _ nofun ?_)
    exact List.forall_mem_singleton.2 hn
  · exact refuses_pure n

theorem roomFor_refuses {capacity count : Int} (hcapacity : W capacity) (hcount : W count) :
    (roomFor action (some capacity) count).Refuses shop (Fault.OfCause W) := by
  unfold roomFor
  dsimp only
  split
  · refine refuses_fail (Cause.fault_ofCause _ nofun ?_)
    exact List.forall_mem_cons.2 ⟨hcapacity, List.forall_mem_singleton.2 hcount⟩
  · exact refuses_pure capacity

theorem inventoryType_refuses (type : Option String) :
    (inventoryType action type).Refuses shop (Fault.OfCause W) := by
  cases type with
  | none => exact refuses_pure _
  | some t => exact refuses_ofExcept Choice.require_refused

theorem addInventory_refuses (id : String) (store number shelf : Option String)
    {capacity count : Int} (hcapacity : W capacity) (hcount : W count)
    (product type : Option String) :
    (addInventory action (some id) store number shelf (some capacity) (some count) product
      type).Refuses shop (Fault.OfCause W) := by
  unfold addInventory
  refine refuses_bind_look (theStore_refuses action store) (theStore_meets action store)
    fun s _ => ?_
  refine refuses_bind_ofExcept Store.getAisle_refused fun a _ => ?_
  refine refuses_bind_ofExcept Aisle.getShelf_refused fun board _ => ?_
  refine refuses_bind_look (startingCount_refuses action hcount) (startingCount_meets action _)
    fun units hunits => ?_
  rw [← Option.some.inj hunits.1]
  refine refuses_bind_look (roomFor_refuses action hcapacity hcount) (roomFor_meets action _ _)
    fun most _ => ?_
  refine refuses_bind_get ?_
  cases shop.products.find? product with
  | none => exact refuses_bind (refuses_fail (Cause.fault_ofCause_of_nil _ nofun rfl)) nofun
  | some item =>
      refine refuses_bind_pure (refuses_bind_look (inventoryType_refuses action type)
        (inventoryType_meets action type) fun sort _ => ?_)
      refine refuses_bind_get (refuses_unless_taken action ?_)
      exact refuses_bind_ofExcept Store.addInventory_refused fun s' _ => refuses_write

theorem addCustomer_refuses (id firstName lastName : String) (type : Option String)
    (email account : String) :
    (addCustomer action (some id) (some firstName) (some lastName) type (some email)
      (some account)).Refuses shop (Fault.OfCause W) := by
  unfold addCustomer
  refine refuses_bind_ofExcept Choice.require_refused fun sort _ => ?_
  exact refuses_bind_get (refuses_unless_taken action refuses_write)

theorem addBasket_refuses (id : String) :
    (addBasket action (some id)).Refuses shop (Fault.OfCause W) := by
  unfold addBasket
  exact refuses_bind_get (refuses_unless_taken action refuses_write)

theorem installDevice_refuses (id name type : String) (store number : Option String) :
    (installDevice action (some id) (some name) type store number).Refuses shop
      (Fault.OfCause W) := by
  unfold installDevice
  refine refuses_bind_ofExcept classifyDevice_refused fun kind _ => ?_
  refine refuses_bind_look (theStore_refuses action store) (theStore_meets action store)
    fun s _ => ?_
  refine refuses_bind_ofExcept Store.getAisle_refused fun a _ => ?_
  refine refuses_bind_get (refuses_unless_taken action ?_)
  exact refuses_bind_ofExcept Store.addDevice_refused fun s' _ => refuses_write

/-! ## Moving -/

theorem updateStore_refuses (id description address : Option String) :
    (updateStore action id description address).Refuses shop (Fault.OfCause W) := by
  unfold updateStore
  exact refuses_bind_look (theStore_refuses action id) (theStore_meets action id)
    fun s _ => refuses_write

theorem closeStore_refuses (id : Option String) :
    (closeStore action id).Refuses shop (Fault.OfCause W) := by
  unfold closeStore
  exact refuses_bind_look (theStore_refuses action id) (theStore_meets action id)
    fun s _ => refuses_bind_modify (refuses_pure _)

theorem moveCustomer_refuses (id store number : Option String) :
    (moveCustomer action id store number).Refuses shop (Fault.OfCause W) := by
  unfold moveCustomer
  refine refuses_bind_look (theCustomer_refuses action id) (theCustomer_meets action id)
    fun c _ => ?_
  refine refuses_bind_look (theStore_refuses action store) (theStore_meets action store)
    fun s _ => ?_
  refine refuses_bind_ofExcept Store.getAisle_refused fun a _ => ?_
  -- From here on everything is written, whatever basket goes along.
  refine refuses_bind_modify (refuses_bind_get ?_)
  split
  · exact refuses_write
  · exact refuses_bind_pure (refuses_pure _)

theorem customerBasket_refuses (id : Option String) :
    (customerBasket action id).Refuses shop (Fault.OfCause W) := by
  unfold customerBasket
  refine refuses_bind_look (theCustomer_refuses action id) (theCustomer_meets action id)
    fun c _ => ?_
  cases c.basket with
  | none => exact refuses_fail (Cause.fault_ofCause_of_nil _ nofun rfl)
  | some b => exact theBasket_refuses action (some b)

/-- A refusal of what is bound to another already. -/
theorem refuses_unless_other {α : Type} {x : Option String} {own : String} {cause : String → Cause}
    {rest : Unit → Act α} (hc : ∀ y, ((cause y).fault action).OfCause W)
    (h : (rest ()).Refuses shop (Fault.OfCause W)) :
    (match x with
      | some y => if y ≠ own then fail action (cause y) >>= rest else rest ()
      | none => rest ()).Refuses shop (Fault.OfCause W) := by
  cases x with
  | none => exact h
  | some y => exact refuses_unless (fun _ => hc y) fun _ => h

theorem assignBasket_refuses (customer basket : Option String) :
    (assignBasket action customer basket).Refuses shop (Fault.OfCause W) := by
  unfold assignBasket
  refine refuses_bind_look (theCustomer_refuses action customer) (theCustomer_meets action customer)
    fun c _ => ?_
  refine refuses_bind_look (theBasket_refuses action basket) (theBasket_meets action basket)
    fun b _ => ?_
  refine refuses_unless_other action (fun _ => Cause.fault_ofCause_of_nil _ nofun rfl) ?_
  refine refuses_unless_other action (fun _ => Cause.fault_ofCause_of_nil _ nofun rfl) ?_
  refine refuses_bind_modify ?_
  -- The basket is looked up once more at the end, in whatever store it now is.
  split
  · exact refuses_bind_modify (theBasket_refuses action basket)
  · exact theBasket_refuses action basket

/-! ## Devices -/

theorem publish_refuses (e : DeviceEvent) : (publish e).Refuses shop (Fault.OfCause W) :=
  refuses_bind_modify (refuses_pure e)

theorem raiseEvent_refuses (device event : Option String) :
    (raiseEvent action device event).Refuses shop (Fault.OfCause W) := by
  unfold raiseEvent
  exact refuses_bind_look (theDevice_refuses action device) (theDevice_meets action device)
    fun d _ => publish_refuses _

theorem issueCommand_refuses (device command : Option String) :
    (issueCommand action device command).Refuses shop (Fault.OfCause W) := by
  unfold issueCommand
  refine refuses_bind_look (theDevice_refuses action device) (theDevice_meets action device)
    fun d _ => ?_
  exact refuses_unless (fun _ => Cause.fault_ofCause_of_nil _ nofun rfl) fun _ => publish_refuses _

/-! ## Trading -/

theorem resolve_refuses (product : String) (spot : Option AisleSpot) :
    (resolve action product spot).Refuses shop (Fault.OfCause W) := by
  unfold resolve
  refine refuses_bind_get ?_
  split
  · exact refuses_pure _
  · exact refuses_fail (Cause.fault_ofCause_of_nil _ nofun rfl)

theorem checkTogether_refuses (b : Basket) (i : Inventory) (spot : Option AisleSpot) :
    (checkTogether action b i spot).Refuses shop (Fault.OfCause W) := by
  unfold checkTogether
  split
  · exact refuses_fail (Cause.fault_ofCause_of_nil _ nofun rfl)
  · exact refuses_fail (Cause.fault_ofCause_of_nil _ nofun rfl)
  · split
    · exact refuses_fail (Cause.fault_ofCause_of_nil _ nofun rfl)
    · exact refuses_pure _

theorem adjustInventory_refuses (hfiled : Filing shop.stores) (hlegible : shop.Legible W)
    (id : Option String) {delta : Int} (hdelta : W delta) :
    (adjustInventory action id delta).Refuses shop (Fault.OfCause W) := by
  unfold adjustInventory
  refine refuses_bind_look (theInventory_refuses action id) (theInventory_meets action id)
    fun i hi => ?_
  rcases hi with ⟨k, rfl, hi⟩
  have hkept := hlegible i ((inventory?_eq_some_iff hfiled _ _).1 hi).1
  exact refuses_bind_ofExcept (Inventory.change_refused hkept.1 hkept.2 hdelta)
    fun i' _ => refuses_write

theorem takeIntoBasket_refuses (hfiled : Filing shop.stores) (hlegible : shop.Legible W)
    (basket product : Option String) {q : Int} (hq : W q) (hneg : W (-q)) :
    (takeIntoBasket action basket product (some q)).Refuses shop (Fault.OfCause W) := by
  unfold takeIntoBasket
  refine refuses_bind_look (theBasket_refuses action basket) (theBasket_meets action basket)
    fun b _ => ?_
  dsimp only
  by_cases hpos : q ≤ 0
  · rw [if_pos hpos]
    refine refuses_bind (refuses_fail (Cause.fault_ofCause _ nofun ?_)) nofun
    exact List.forall_mem_singleton.2 hq
  rw [if_neg hpos]
  cases product with
  | none =>
      exact refuses_bind_pure
        (refuses_bind (refuses_fail (Cause.fault_ofCause_of_nil _ nofun rfl)) nofun)
  | some p =>
      refine refuses_bind_pure (refuses_bind_pure (refuses_bind_get ?_))
      refine refuses_bind_look (resolve_refuses action p _) (resolve_meets action p _)
        fun i hi => ?_
      have hkept := hlegible i (choose_keeps hfiled hi).1
      refine refuses_bind_look (checkTogether_refuses action b i _)
        (checkTogether_meets action b i _)
        fun _ _ => ?_
      refine refuses_unless (fun _ => Cause.fault_ofCause _ nofun ?_) fun _ => ?_
      · exact List.forall_mem_cons.2 ⟨hq, List.forall_mem_singleton.2 hkept.1⟩
      · refine refuses_bind_ofExcept
          (Inventory.change_refused hkept.1 hkept.2 hneg) fun i' _ => ?_
        refine refuses_bind_modify (refuses_bind_ofExcept ?_ fun b' _ => refuses_write)
        rw [b.add_eq_ok p (by omega)]
        exact nofun

theorem putBackFromBasket_refuses (hfiled : Filing shop.stores) (hlegible : shop.Legible W)
    (basket product : Option String) {q : Int} (hq : W q)
    (hunits : ∀ held, shop.refusedUnits (.removeBasketProduct basket product q) = some held →
      W held) :
    (putBackFromBasket action basket product (some q)).Refuses shop (Fault.OfCause W) := by
  unfold putBackFromBasket
  refine refuses_bind_look (theBasket_refuses action basket) (theBasket_meets action basket)
    fun b hb => ?_
  rcases hb with ⟨k, rfl, hb⟩
  cases product with
  | none => exact refuses_bind (refuses_fail (Cause.fault_ofCause_of_nil _ nofun rfl)) nofun
  | some p =>
      have hfind : shop.baskets.find? (some k) = some b := hb
      unfold refusedUnits at hunits
      dsimp only at hunits
      rw [hfind, Option.bind_some] at hunits
      rw [Keyed.find?_some] at hunits ⊢
      cases hheld : b.lines.get? p with
      | none => exact refuses_bind (refuses_fail (Cause.fault_ofCause_of_nil _ nofun rfl)) nofun
      | some held =>
          refine refuses_bind_pure ?_
          dsimp only
          by_cases hbad : q ≤ 0 ∨ held < q
          · have hknown := hunits held (by
              rw [hheld]
              exact Option.filter_some_pos (decide_eq_true hbad))
            rw [if_pos hbad]
            refine refuses_bind (refuses_fail (Cause.fault_ofCause _ nofun ?_)) nofun
            exact List.forall_mem_cons.2 ⟨hq, List.forall_mem_singleton.2 hknown⟩
          · rw [if_neg hbad]
            refine refuses_bind_pure (refuses_bind_get ?_)
            refine refuses_bind_look (resolve_refuses action p _) (resolve_meets action p _)
              fun i hi => ?_
            have hkept := hlegible i (choose_keeps hfiled hi).1
            refine refuses_bind_look (checkTogether_refuses action b i _)
              (checkTogether_meets action b i _) fun _ _ => ?_
            refine refuses_bind_ofExcept (Inventory.change_refused hkept.1 hkept.2 hq)
              fun i' _ => ?_
            refine refuses_bind_modify (refuses_bind_ofExcept ?_ fun b' _ => refuses_write)
            rw [b.remove_eq_ok hheld (by omega) (by omega)]
            exact nofun

/-- Units that are refused and cannot be named end the attempt in a fault that is no failure. -/
theorem putBackFromBasket_unsayable {basket product : Option String} {q held : Int}
    (hunits : shop.refusedUnits (.removeBasketProduct basket product q) = some held)
    (hlong : ¬ Number.writable held = true) :
    (putBackFromBasket action basket product (some q)).runIn shop =
      (.error (.badValue .longNumber), shop) := by
  unfold refusedUnits at hunits
  rcases Option.filter_eq_some_iff.1 hunits with ⟨hfound, hbad⟩
  rcases Option.bind_eq_some_iff.1 hfound with ⟨b, hb, hheld⟩
  rcases (Keyed.find?_eq_some_iff _ _ _).1 hb with ⟨k, rfl, hget⟩
  rcases (Keyed.find?_eq_some_iff _ _ _).1 hheld with ⟨p, rfl, hline⟩
  rw [runIn_putBackFromBasket action hget]
  unfold returning
  rw [hline]
  dsimp only
  rw [if_pos (of_decide_eq_true hbad), Cause.fault_of_long action _ hlong]
  exact List.mem_append_right _ (List.mem_singleton_self held)

theorem emptyBasket_refuses (hfiled : Filing shop.stores) (hstocked : shop.Stocked)
    (basket : Option String) : (emptyBasket action basket).Refuses shop (Fault.OfCause W) := by
  have habsent (h : shop.baskets.find? basket = none) :
      (emptyBasket action basket).Refuses shop (Fault.OfCause W) := by
    refine refuses_bind (theBasket_refuses action basket) fun b shop' hrun => ?_
    rcases ((theBasket_meets action basket).ok b shop' hrun).2 with ⟨k, rfl, hb⟩
    rw [Keyed.find?_some, hb] at h
    cases h
  cases basket with
  | none => exact habsent rfl
  | some k =>
      cases hb : shop.baskets.get? k with
      | none => exact habsent hb
      -- What is there is emptied without asking anything that could be refused.
      | some b => exact refuses_of_succeeds (emptyBasket_succeeds action hfiled hstocked hb)

/-- How an operation fails that gives what it needs, in a sound shop: for one of the usual causes, of
    whose numbers is known what is known of those on the shelves and of units that are refused, as
    long as that is true of all numbers that can be written. -/
theorem carryOut_refuses (hsound : shop.Sound) (hW : ∀ n, Number.writable n = true → W n)
    (hlegible : shop.Legible W) {op : Operation} (hop : op.Given)
    (hunits : ∀ held, shop.refusedUnits op = some held → W held) :
    (carryOut op).Refuses shop (Fault.OfCause W) := by
  have hfiled := hsound.filed.floor
  cases hop with
  | provisionStore id name address => exact refuses_map (openStore_refuses _ id name address)
  | showStore id => exact refuses_map (theStore_refuses _ id)
  | updateStore id description address => exact refuses_map (updateStore_refuses _ _ _ _)
  | deleteStore id => exact refuses_map (closeStore_refuses _ id)
  | provisionAisle store number name description location =>
      exact refuses_map (openAisle_refuses _ _ _ _ _ _)
  | showAisle store number =>
      exact refuses_bind_look (theStore_refuses _ store) (theStore_meets _ store) fun s _ =>
        refuses_map (refuses_ofExcept Store.getAisle_refused)
  | provisionShelf store number id name level description temperature =>
      exact refuses_map (putUpShelf_refuses _ _ _ _ _ _ _ _)
  | showShelf store number id =>
      exact refuses_bind_look (theStore_refuses _ store) (theStore_meets _ store) fun s _ =>
        refuses_map (refuses_ofExcept Store.getShelf_refused)
  | provisionProduct id name description size category price temperature =>
      exact refuses_map (addProduct_refuses _ _ _ _ _ _ _ _)
  | showProduct id => exact refuses_map (theProduct_refuses _ id)
  | provisionInventory id store number shelf hcapacity hcount product type =>
      exact refuses_map (addInventory_refuses _ _ _ _ _ (hW _ hcapacity) (hW _ hcount) _ _)
  | showInventory id => exact refuses_map (theInventory_refuses _ id)
  | updateInventory id hdelta =>
      exact refuses_map (adjustInventory_refuses _ hfiled hlegible _ (hW _ hdelta))
  | provisionCustomer id firstName lastName type email account =>
      exact refuses_map (addCustomer_refuses _ _ _ _ _ _ _)
  | showCustomer id => exact refuses_map (theCustomer_refuses _ id)
  | updateCustomer id store number => exact refuses_map (moveCustomer_refuses _ _ _ _)
  | provisionBasket id => exact refuses_map (addBasket_refuses _ id)
  | showBasket id => exact refuses_map (theBasket_refuses _ id)
  | getCustomerBasket customer => exact refuses_map (customerBasket_refuses _ customer)
  | assignCustomerBasket customer basket => exact refuses_map (assignBasket_refuses _ _ _)
  | addBasketProduct basket product hquantity =>
      exact refuses_map (takeIntoBasket_refuses _ hfiled hlegible _ _ (hW _ hquantity)
        (hW _ (Number.writable_neg hquantity)))
  | removeBasketProduct basket product hquantity =>
      exact refuses_map (putBackFromBasket_refuses _ hfiled hlegible _ _ (hW _ hquantity) hunits)
  | clearBasket basket => exact refuses_map (emptyBasket_refuses _ hfiled hsound.stocked basket)
  | provisionDevice id name type store number =>
      exact refuses_map (installDevice_refuses _ _ _ _ _ _)
  | showDevice id => exact refuses_map (theDevice_refuses _ id)
  | raiseEvent device event => exact refuses_map (raiseEvent_refuses _ _ _)
  | issueCommand device command => exact refuses_map (issueCommand_refuses _ _ _)

/-- An operation whose refusal would have to name units that cannot be named is not refused. -/
theorem carryOut_unsayable {op : Operation} {held : Int} (hunits : shop.refusedUnits op = some held)
    (hlong : ¬ Number.writable held = true) :
    (carryOut op).runIn shop = (.error (.badValue .longNumber), shop) := by
  cases op with
  | removeBasketProduct basket product quantity =>
      cases quantity with
      | none => cases hunits
      | some q =>
          have hrun := putBackFromBasket_unsayable "Remove Basket Product" hunits hlong
          change (Reply.basket <$> putBackFromBasket "Remove Basket Product" basket product
            (some q)).runIn shop = _
          rw [runIn_map, hrun]
  | _ => cases hunits

end Shop

end Shopfloor
