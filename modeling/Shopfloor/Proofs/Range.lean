import Shopfloor.Proofs.Provisioned
/-!
# What Records Can Say

The values that a field can have after any run.

Counts and quantities are numbers that operations change, so their ranges are an
invariant, `Stocked`, which every step keeps. All other fields spoken of here
are provisioned and change no more: a price, and the choices of a record. About
those there is more to say than which values they can have. The record was provisioned
by a call, and what the field holds is what that call asked for, in whatever
letter case and with whatever blanks around it. A text that names no choice is
refused, so nothing else can be in the field.

The kind of a device is the one field that no caller writes. It follows from the
type of the device, which is read the same way.

## Main definitions

* `Spelled`: A field holds one of its texts, read from what a caller wrote.
* `Shop.InRange`: What the fields of all records can hold.

## Theorems

* `Choice.read?_eq_some`: Reading a choice, in any spelling.
* `classifyDevice_eq_ok`: Reading the type of a device, in any spelling.
* `records_in_range`: All fields of a shop at the end of a run.
-/

namespace Shopfloor

namespace Choice

variable {α : Type} [Choice α]

/-- A text names a choice exactly if it is the text of one up to letter case and blanks around
    it. -/
theorem isSome_read?_iff (s : String) :
    (read? (α := α) s).isSome = true ↔ fold s ∈ (members (α := α)).map text := by
  unfold read? exactly?
  rw [List.find?_isSome, List.mem_map]
  exact exists_congr fun a => and_congr_right fun _ => beq_iff_eq

/-- What is read from a text has that text, up to letter case and blanks around it. -/
theorem read?_eq_some {s : String} {a : α} (h : read? s = some a) :
    text a = fold s ∧ text a ∈ (members (α := α)).map text := by
  have hfound : (members (α := α)).find? (fun a => text a == fold s) = some a := h
  have htext := List.find?_some hfound
  exact ⟨beq_iff_eq.1 htext, List.mem_map.2 ⟨a, List.mem_of_find?_eq_some hfound, rfl⟩⟩

example : read? "\t High \n" = some ShelfLevel.high := by decide +kernel

/-- A text that names a choice was given, if no choice has the text that stands for a missing
    one. -/
theorem exists_of_read?_shown {given : Option String} {a : α} (h : read? (shown given) = some a)
    (hnone : read? (α := α) (shown none) = none) : ∃ s, given = some s ∧ read? s = some a := by
  cases given with
  | none =>
      rw [hnone] at h
      cases h
  | some s => exact ⟨s, rfl, h⟩

end Choice

/-- The kind of a device, by the text of its type. -/
def kindOfType (type : String) : String :=
  if type ∈ ["microphone", "camera"] then "sensor" else "appliance"

/-- What a device can do is told from its type, in any spelling. -/
theorem classifyDevice_eq_ok {type : String} {kind : DeviceKind}
    (h : classifyDevice type = .ok kind) :
    Choice.fold type ∈ ["microphone", "camera", "speaker", "robot", "turnstile"] ∧
      Choice.text kind = kindOfType (Choice.fold type) := by
  unfold classifyDevice at h
  split at h
  · rename_i hsensor
    have hmem : Choice.fold type ∈ ["microphone", "camera"] :=
      (Choice.isSome_read?_iff (α := SensorType) type).1 hsensor
    cases h
    refine ⟨List.mem_append_left ["speaker", "robot", "turnstile"] hmem, ?_⟩
    unfold kindOfType
    rw [if_pos hmem]
    rfl
  · rename_i hsensor
    have hnot : Choice.fold type ∉ ["microphone", "camera"] := fun hmem =>
      hsensor ((Choice.isSome_read?_iff (α := SensorType) type).2 hmem)
    split at h
    · rename_i happliance
      have hmem : Choice.fold type ∈ ["speaker", "robot", "turnstile"] :=
        (Choice.isSome_read?_iff (α := ApplianceType) type).1 happliance
      cases h
      refine ⟨List.mem_append_right ["microphone", "camera"] hmem, ?_⟩
      unfold kindOfType
      rw [if_neg hnot]
      rfl
    · cases h

/-- A number that passes the tests of a price is finite and not negative; zero may have a sign. -/
theorem Binary64.finite_of_isFinite {x : Binary64} (hx : x.isFinite = true)
    (h0 : x.belowZero = false) :
    ∃ negative m e, x = .finite negative m e ∧ (negative = true → m = 0) := by
  cases x with
  | finite negative m e =>
      refine ⟨negative, m, e, rfl, fun hsign => ?_⟩
      unfold belowZero at h0
      dsimp only at h0
      rw [hsign, Bool.true_and, bne_eq_false_iff_eq] at h0
      exact h0
  | infinite _ | notANumber _ => cases hx

/-- A field holds one of some texts, and a call of a run wrote what it holds, as `read` reads it;
    `asks` says which operations write the field, and where they have the text. -/
structure Spelled (calls : List (Option String × Operation)) (texts : List String)
    (read : String → String) (asks : String → Operation → Prop) (held : String) : Prop where
  canonical : held ∈ texts
  written : ∃ call ∈ calls, ∃ w, asks w call.2 ∧ read w = held

/-- A choice that was read from what a call wrote. -/
theorem Spelled.of_read? {α : Type} [Choice α] {calls : List (Option String × Operation)}
    {asks : String → Operation → Prop} {call : Option String × Operation} {w : String} {a : α}
    (hmem : call ∈ calls) (hasks : asks w call.2) (hread : Choice.read? w = some a) :
    Spelled calls ((Choice.members (α := α)).map Choice.text) Choice.fold asks (Choice.text a) := by
  rcases Choice.read?_eq_some hread with ⟨htext, hcanonical⟩
  exact ⟨hcanonical, call, hmem, w, hasks, htext.symm⟩

/-- The same of a text that need not be given, if a missing one is refused. -/
theorem Spelled.of_shown {α : Type} [Choice α] {calls : List (Option String × Operation)}
    {asks : String → Operation → Prop} {call : Option String × Operation} {given : Option String}
    {a : α} (hmem : call ∈ calls) (hasks : ∀ w, given = some w → asks w call.2)
    (hread : Choice.read? (shown given) = some a)
    (hnone : Choice.read? (α := α) (shown none) = none) :
    Spelled calls ((Choice.members (α := α)).map Choice.text) Choice.fold asks (Choice.text a) := by
  rcases Choice.exists_of_read?_shown hread hnone with ⟨w, hw, hread⟩
  exact .of_read? hmem (hasks w hw) hread

/-- What the fields of all records can hold after a run. -/
structure InRange (calls : List (Option String × Operation)) (shop : Shop) : Prop where
  /-- Counts are between zero and capacity. -/
  counts : ∀ k s i r, shop.stores.get? k = some s → s.inventory.get? i = some r →
    0 ≤ r.count ∧ r.count ≤ r.capacity
  /-- Lines of baskets are positive, and of products of the catalogue. -/
  lines : ∀ b r p q, shop.baskets.get? b = some r → r.lines.get? p = some q →
    1 ≤ q ∧ ∃ item, shop.products.get? p = some item
  /-- Prices are finite and not negative. -/
  prices : ∀ p r, shop.products.get? p = some r →
    ∃ negative m e, r.price = .finite negative m e ∧ (negative = true → m = 0)
  aisles : ∀ k s n r l, shop.stores.get? k = some s → s.aisles.get? n = some r →
    r.location = some l →
    Spelled calls ["floor", "store_room"] Choice.fold
      (fun w op => ∃ name description,
        op = .provisionAisle (some k) (some n) (some name) description (some w))
      (Choice.text l)
  levels : ∀ k s n a i r, shop.stores.get? k = some s → s.aisles.get? n = some a →
    a.shelves.get? i = some r →
    Spelled calls ["low", "medium", "high"] Choice.fold
      (fun w op => ∃ name description temperature,
        op = .provisionShelf (some k) (some n) (some i) (some name) (some w) description temperature)
      (Choice.text r.level)
  shelfTemperatures : ∀ k s n a i r, shop.stores.get? k = some s → s.aisles.get? n = some a →
    a.shelves.get? i = some r →
    Spelled calls ["frozen", "refrigerated", "ambient", "warm", "hot"] Choice.fold
      (fun w op => ∃ name level description,
        op = .provisionShelf (some k) (some n) (some i) (some name) level description (some w))
      (Choice.text r.temperature)
  productTemperatures : ∀ p r, shop.products.get? p = some r →
    Spelled calls ["frozen", "refrigerated", "ambient", "warm", "hot"] Choice.fold
      (fun w op => ∃ name description size category price,
        op = .provisionProduct (some p) (some name) description size category (some price) (some w))
      (Choice.text r.temperature)
  /-- An inventory of which no type was given is a standard one. -/
  inventoryTypes : ∀ k s i r, shop.stores.get? k = some s → s.inventory.get? i = some r →
    Spelled calls ["standard", "flexible"] Choice.fold
      (fun w op => ∃ n b most units p type, w = type.getD "standard" ∧
        op = .provisionInventory (some i) (some k) (some n) (some b) (some most) units (some p) type)
      (Choice.text r.type)
  customerTypes : ∀ c r, shop.customers.get? c = some r →
    Spelled calls ["guest", "registered"] Choice.fold
      (fun w op => ∃ first last email account,
        op = .provisionCustomer (some c) (some first) (some last) (some w) (some email)
          (some account))
      (Choice.text r.type)
  /-- What a device can do follows from the type that the caller wrote. -/
  deviceKinds : ∀ k s d r, shop.stores.get? k = some s → s.devices.get? d = some r →
    Spelled calls ["sensor", "appliance"] (fun w => kindOfType (Choice.fold w))
      (fun w op => r.type = Choice.fold w ∧
        ∃ name n, op = .provisionDevice (some d) (some name) w (some k) (some n))
      (Choice.text r.kind)

namespace Registers

variable {op : Operation} {k i n : String}

/-- Which operation provisions an aisle. -/
theorem aisle_inv {a : Aisle} (h : Registers op (.fitting k (.aisle n)) a.provisioned) :
    ∃ name description location,
      op = .provisionAisle (some k) (some n) (some name) description location ∧
        location.map Choice.read? = a.location.map some := by
  generalize hrecord : a.provisioned = record at h
  cases h with
  | aisle _ _ name description hp =>
      unfold Aisle.provisioned at hrecord
      rw [Provisioned.aisle.injEq, Aisle.mk.injEq] at hrecord
      rw [hrecord.2.2.2.1]
      exact ⟨name, description, _, rfl, hp⟩

/-- Which operation provisions a shelf. -/
theorem shelf_inv {b : Shelf} (h : Registers op (.fitting k (.shelf n i)) (.shelf b)) :
    ∃ name level description temperature,
      op = .provisionShelf (some k) (some n) (some i) (some name) level description temperature ∧
        Choice.read? (shown level) = some b.level ∧
          Choice.read? (shown temperature) = some b.temperature := by
  cases h with
  | shelf _ _ _ name description hh hw => exact ⟨name, _, description, _, rfl, hh, hw⟩

/-- Which operation provisions a product. -/
theorem product_inv {p : Product} (h : Registers op (.product i) (.product p)) :
    ∃ name description size category temperature,
      op = .provisionProduct (some i) (some name) description size category (some p.price)
        temperature ∧ p.price.isFinite = true ∧ p.price.belowZero = false ∧
          Choice.read? (shown temperature) = some p.temperature := by
  cases h with
  | product _ name description size category hx h0 hw =>
      exact ⟨name, description, size, category, _, rfl, hx, h0, hw⟩

/-- Which operation provisions an inventory. -/
theorem inventory_inv {j : Inventory} (h : Registers op (.fitting k (.inventory i)) j.provisioned) :
    ∃ n b most units p type,
      op = .provisionInventory (some i) (some k) (some n) (some b) (some most) units (some p) type ∧
        type.elim (some .standard) Choice.read? = some j.type := by
  generalize hrecord : j.provisioned = record at h
  cases h with
  | inventory _ _ n b p most units ht =>
      unfold Inventory.provisioned at hrecord
      rw [Provisioned.inventory.injEq, Inventory.mk.injEq] at hrecord
      rw [hrecord.2.2.2.2.2]
      exact ⟨n, b, most, units, p, _, rfl, ht⟩

/-- Which operation provisions a customer. -/
theorem customer_inv {c : Customer} (h : Registers op (.customer i) c.provisioned) :
    ∃ first last type email account,
      op = .provisionCustomer (some i) (some first) (some last) type (some email) (some account) ∧
        Choice.read? (shown type) = some c.type := by
  generalize hrecord : c.provisioned = record at h
  cases h with
  | customer _ first last email account ht =>
      unfold Customer.provisioned at hrecord
      rw [Provisioned.customer.injEq, Customer.mk.injEq] at hrecord
      rw [hrecord.2.2.2.1]
      exact ⟨first, last, _, email, account, rfl, ht⟩

/-- Which operation provisions a device. -/
theorem device_inv {d : Device} (h : Registers op (.fitting k (.device i)) (.device d)) :
    ∃ name type n, op = .provisionDevice (some i) (some name) type (some k) (some n) ∧
      d.type = Choice.fold type ∧ classifyDevice type = .ok d.kind := by
  cases h with
  | device _ name _ n hk => exact ⟨name, _, n, rfl, rfl, hk⟩

end Registers

namespace Shop

/-- After any run, by whomever it was asked for and however its calls ended, counts are between zero
    and capacity, lines are positive and of products of the catalogue, prices are finite and not
    negative, and every choice has the text that the caller wrote, in small letters and without
    blanks around it. -/
theorem records_in_range (calls : List (Option String × Operation)) :
    InRange calls (Shop.runAll .empty calls) := by
  have hsound := (Reachable.empty.runAll calls).sound
  constructor
  case counts =>
    intro k s i r hs hi
    have hrange := hsound.stocked.counts k s hs i r hi
    exact ⟨hrange.1, hrange.2.1⟩
  case lines =>
    intro b r p q hb hq
    have hline := hsound.stocked.lines b r hb p q hq
    exact ⟨hline.1, (Keyed.contains_iff _ _).1 hline.2⟩
  case prices =>
    intro p r hr
    rcases runAll_registered (provisioned?_product hr) with ⟨call, -, hcall⟩
    rcases hcall.product_inv with ⟨_, _, _, _, _, -, hx, h0, -⟩
    exact Binary64.finite_of_isFinite hx h0
  case aisles =>
    intro k s n r l hs hn hl
    rcases runAll_registered (provisioned?_aisle hs hn) with ⟨call, hmem, hcall⟩
    rcases hcall.aisle_inv with ⟨name, description, location, hop, hread⟩
    rw [hl, Option.map_some] at hread
    rcases Option.map_eq_some_iff.1 hread with ⟨w, rfl, hw⟩
    exact .of_read? hmem ⟨name, description, hop⟩ hw
  case levels =>
    intro k s n a i r hs hn hi
    rcases runAll_registered (provisioned?_shelf hs hn hi) with ⟨call, hmem, hcall⟩
    rcases hcall.shelf_inv with ⟨name, level, description, temperature, hop, hread, -⟩
    refine .of_shown hmem (fun w hw => ?_) hread (by decide +kernel)
    exact ⟨name, description, temperature, hw ▸ hop⟩
  case shelfTemperatures =>
    intro k s n a i r hs hn hi
    rcases runAll_registered (provisioned?_shelf hs hn hi) with ⟨call, hmem, hcall⟩
    rcases hcall.shelf_inv with ⟨name, level, description, temperature, hop, -, hread⟩
    refine .of_shown hmem (fun w hw => ?_) hread (by decide +kernel)
    exact ⟨name, level, description, hw ▸ hop⟩
  case productTemperatures =>
    intro p r hr
    rcases runAll_registered (provisioned?_product hr) with ⟨call, hmem, hcall⟩
    rcases hcall.product_inv with ⟨name, description, size, category, _, hop, -, -, hread⟩
    refine .of_shown hmem (fun w hw => ?_) hread (by decide +kernel)
    exact ⟨name, description, size, category, r.price, hw ▸ hop⟩
  case inventoryTypes =>
    intro k s i r hs hi
    rcases runAll_registered (provisioned?_inventory hs hi) with ⟨call, hmem, hcall⟩
    rcases hcall.inventory_inv with ⟨n, b, most, units, p, type, hop, hread⟩
    have hgiven : Choice.read? (type.getD "standard") = some r.type := by
      cases type with
      | none =>
          have hstandard : Choice.read? "standard" = some InventoryType.standard := by
            decide +kernel
          rw [Option.elim_none] at hread
          rw [Option.getD_none, hstandard, hread]
      | some w =>
          rw [Option.elim_some] at hread
          rw [Option.getD_some, hread]
    exact .of_read? hmem ⟨n, b, most, units, p, type, rfl, hop⟩ hgiven
  case customerTypes =>
    intro c r hr
    rcases runAll_registered (provisioned?_customer hr) with ⟨call, hmem, hcall⟩
    rcases hcall.customer_inv with ⟨first, last, type, email, account, hop, hread⟩
    refine .of_shown hmem (fun w hw => ?_) hread (by decide +kernel)
    exact ⟨first, last, email, account, hw ▸ hop⟩
  case deviceKinds =>
    intro k s d r hs hd
    rcases runAll_registered (provisioned?_device hs hd) with ⟨call, hmem, hcall⟩
    rcases hcall.device_inv with ⟨name, w, n, hop, htype, hkind⟩
    have hcanonical : Choice.text r.kind ∈ ["sensor", "appliance"] := by
      cases r.kind <;> decide
    exact ⟨hcanonical, call, hmem, w, ⟨htype, name, n, hop⟩, (classifyDevice_eq_ok hkind).2.symm⟩

end Shop

end Shopfloor
