import Shopfloor.Proofs.Reachable
import Shopfloor.Proofs.Script.Compound
import Shopfloor.Script.Session
/-!
# Lines Do What Calls Do

Saying a call on a command line and making the call directly come to the same,
in the shop and in the answer.

The way from a line to the shop has three parts. The line is taken apart into a
command that gives what the sentence says, `Command.Gives`. The rule for its
name reads the arguments and makes of them the operation that is asked,
`Form.Reads`, one lemma for each rule. And what is asked is what the call is,
up to texts that were left out: the rule fills in the empty text and the shop
would have done the same.

Nothing here looks at what operations do. Whatever the shop answers to the call,
it answers to the line, and a refusal is the same refusal with the same message.
If it succeeds, what is shown is the sentence that confirms it, which can be
made of any answer.

## Main definitions

* `Script.Command.Gives`: A command gives the arguments of a call.
* `Script.Call.asked`: What a call asks when it is said.
* `Script.Form.Reads`: A rule reads a call.

## Theorems

* `Gives.text`, `Gives.integer`, `Gives.number`: Arguments are read.
* `aisleSpot_text`, `shelfSpot_text`: Compound ids are read.
* `reads_defineStore` to `reads_createCommand`: The rule of each call reads it.
* `ofCommand_eq`: What a command asks.
* `line_simulates_call`: Lines do what calls do.
-/

namespace Shopfloor

namespace Script

/-- A command gives the arguments of a call. -/
structure Command.Gives (c : Command) (call : Call) : Prop where
  name : c.name = " ".intercalate call.verb
  target : c.target = some call.target.written
  args : ∀ k, c.args.get? k = (call.fields.lookup k).join.map Argument.written

/-- What a call asks when it is said: texts that the rules fill in are the empty text. -/
def Call.asked : Call → Operation
  | .provisionAisle spot name description location =>
    .provisionAisle spot.store spot.aisle name (description.getD "") location
  | .provisionShelf spot name level description temperature =>
    .provisionShelf spot.store spot.aisle spot.shelf name level (description.getD "") temperature
  | .provisionProduct id name description size category price temperature =>
    .provisionProduct id name (description.getD "") (size.getD "") (category.getD "")
      (Number.readDecimal price) temperature
  | call => call.operation

/-- The shop sees no difference between a text that was left out and the empty text. -/
theorem Call.perform_asked (call : Call) (token : Option String) :
    Shop.perform token call.asked = Shop.perform token call.operation := by
  cases call <;> rfl

theorem Call.confirmation_asked (call : Call) :
    confirmation call.asked = confirmation call.operation := by
  funext reply
  cases call <;> cases reply <;> rfl

/-- A text that names an aisle of a store is read. -/
theorem aisleSpot_text (c : Command) {spot : AisleSpot} (h : (Argument.aisle spot).Writable) :
    c.aisleSpot spot.text = .ok spot := by
  have hsplit : splitLocation spot.text 2 c.line = .ok [spot.store, spot.aisle] :=
    splitLocation_eq_ok_iff.2 ⟨composed_aisle h, rfl⟩
  unfold Command.aisleSpot
  exact congrArg (· >>= _) hsplit

/-- A text that names a shelf of an aisle is read. -/
theorem shelfSpot_text (c : Command) {spot : ShelfSpot} (h : (Argument.shelf spot).Writable) :
    c.shelfSpot spot.text = .ok spot := by
  have hsplit : splitLocation spot.text 3 c.line = .ok [spot.store, spot.aisle, spot.shelf] :=
    splitLocation_eq_ok_iff.2 ⟨composed_shelf h, rfl⟩
  unfold Command.shelfSpot
  exact congrArg (· >>= _) hsplit

/-- An argument that is given behind a keyword can be written. -/
theorem Call.Writable.argument {call : Call} (hw : call.Writable) {k : String} {a : Argument}
    (hk : (call.fields.lookup k).join = some a) : a.Writable := by
  have hfound := Option.join_eq_some_iff.1 hk
  have hmem := (Keyed.lookup_eq_some_iff _ call.nodup_keys k (some a)).1 hfound
  exact hw.fields _ hmem a rfl

namespace Command.Gives

variable {c : Command} {call : Call} {k : String}

/-- The id of the command is read. -/
theorem id (h : c.Gives call) (hw : call.Writable) : c.id = .ok call.target.written := by
  unfold Command.id
  rw [h.target]
  split
  · rename_i hnone
    cases hnone
  · rename_i hempty
    exact absurd (Option.some.inj hempty) hw.named
  · rename_i hsome
    rw [Option.some.inj hsome]

/-- An argument that is given is what stands behind its keyword. -/
theorem arg (h : c.Gives call) {a : Argument} (hk : (call.fields.lookup k).join = some a) :
    c.arg k = .ok a.written := by
  have hget := h.args k
  rw [hk, Option.map_some] at hget
  unfold Command.arg
  rw [hget]

theorem text (h : c.Gives call) {s : String}
    (hk : (call.fields.lookup k).join = some (.text s)) : c.arg k = .ok s := h.arg hk

theorem aisle (h : c.Gives call) {spot : AisleSpot}
    (hk : (call.fields.lookup k).join = some (.aisle spot)) : c.arg k = .ok spot.text := h.arg hk

theorem shelf (h : c.Gives call) {spot : ShelfSpot}
    (hk : (call.fields.lookup k).join = some (.shelf spot)) : c.arg k = .ok spot.text := h.arg hk

/-- A text that may be left out is what stands behind its keyword, if it is given. -/
theorem get? (h : c.Gives call) {s : Option String}
    (hk : (call.fields.lookup k).join = s.map .text) : c.args.get? k = s := by
  have hget := h.args k
  rw [hk, Option.map_map] at hget
  exact hget.trans Option.map_id'

theorem argOrEmpty (h : c.Gives call) {s : Option String}
    (hk : (call.fields.lookup k).join = s.map .text) : c.argOrEmpty k = s.getD "" := by
  unfold Command.argOrEmpty
  rw [h.get? hk]

/-- A whole number is read. -/
theorem integer (h : c.Gives call) (hw : call.Writable) {n : Int}
    (hk : (call.fields.lookup k).join = some (.integer n)) : c.integer k = .ok n := by
  have hwritable : Number.writable n = true := hw.argument hk
  have harg : c.arg k = .ok (toString n) := h.arg hk
  unfold Command.integer
  rw [harg, ok_bind, Number.readInt_toString hwritable]

/-- A number is read. -/
theorem number (h : c.Gives call) (hw : call.Writable) {s : String}
    (hk : (call.fields.lookup k).join = some (.price s)) :
    ∃ x, Number.readDecimal s = some x ∧ c.number k = .ok x := by
  rcases (hw.argument hk).2 with ⟨x, hx⟩
  have harg : c.arg k = .ok s := h.arg hk
  refine ⟨x, hx, ?_⟩
  unfold Command.number
  rw [harg, ok_bind, hx]

end Command.Gives

/-! ### What the rules read -/

/-- A rule reads a call: of whatever gives the arguments of the call it makes what the call asks. -/
def Form.Reads (form : Form) (call : Call) : Prop :=
  ∀ c : Command, c.Gives call → call.Writable → form c = .ok (confirms call.asked)

theorem reads_defineStore (id name address : String) :
    defineStore.Reads (.provisionStore id name address) := by
  intro c h hw
  have hid : c.id = .ok id := h.id hw
  unfold defineStore
  rw [hid, ok_bind, h.text (k := "name") rfl, ok_bind, h.text (k := "address") rfl, ok_bind]
  rfl

theorem reads_defineAisle (spot : AisleSpot) (name : String)
    (description location : Option String) :
    defineAisle.Reads (.provisionAisle spot name description location) := by
  intro c h hw
  have hid : c.id = .ok spot.text := h.id hw
  unfold defineAisle
  rw [hid, ok_bind, aisleSpot_text c hw.target, ok_bind, h.text (k := "name") rfl, ok_bind,
    h.argOrEmpty (k := "description") rfl, h.get? (k := "location") rfl]
  rfl

theorem reads_defineShelf (spot : ShelfSpot) (name level : String) (description : Option String)
    (temperature : String) :
    defineShelf.Reads (.provisionShelf spot name level description temperature) := by
  intro c h hw
  have hid : c.id = .ok spot.text := h.id hw
  unfold defineShelf
  rw [hid, ok_bind, shelfSpot_text c hw.target, ok_bind, h.text (k := "name") rfl, ok_bind,
    h.text (k := "level") rfl, ok_bind, h.text (k := "temperature") rfl, ok_bind,
    h.argOrEmpty (k := "description") rfl]
  rfl

theorem reads_defineProduct (id name : String) (description size category : Option String)
    (price temperature : String) :
    defineProduct.Reads (.provisionProduct id name description size category price temperature) := by
  intro c h hw
  have hid : c.id = .ok id := h.id hw
  rcases h.number (k := "unit_price") hw rfl with ⟨x, hx, hprice⟩
  unfold defineProduct
  rw [hid, ok_bind, h.text (k := "name") rfl, ok_bind, hprice, ok_bind,
    h.text (k := "temperature") rfl, ok_bind, h.argOrEmpty (k := "description") rfl,
    h.argOrEmpty (k := "size") rfl, h.argOrEmpty (k := "category") rfl, ← hx]
  rfl

theorem reads_defineInventory (id : String) (spot : ShelfSpot) (capacity count : Int)
    (product : String) (type : Option String) :
    defineInventory.Reads (.provisionInventory id spot capacity count product type) := by
  intro c h hw
  have hid : c.id = .ok id := h.id hw
  have hspot : (Argument.shelf spot).Writable := hw.argument (k := "location") rfl
  unfold defineInventory
  rw [h.shelf (k := "location") rfl, ok_bind, shelfSpot_text c hspot, ok_bind, hid, ok_bind,
    h.integer (k := "capacity") hw rfl, ok_bind, h.integer (k := "count") hw rfl, ok_bind,
    h.text (k := "product") rfl, ok_bind, h.get? (k := "type") rfl]
  rfl

theorem reads_defineCustomer (id firstName lastName type email account : String) :
    defineCustomer.Reads (.provisionCustomer id firstName lastName type email account) := by
  intro c h hw
  have hid : c.id = .ok id := h.id hw
  unfold defineCustomer
  rw [hid, ok_bind, h.text (k := "first_name") rfl, ok_bind, h.text (k := "last_name") rfl,
    ok_bind, h.text (k := "type") rfl, ok_bind, h.text (k := "email_address") rfl, ok_bind,
    h.text (k := "account") rfl, ok_bind]
  rfl

theorem reads_defineBasket (id : String) : defineBasket.Reads (.provisionBasket id) := by
  intro c h hw
  have hid : c.id = .ok id := h.id hw
  unfold defineBasket
  rw [hid, ok_bind]
  rfl

theorem reads_defineDevice (id name type : String) (spot : AisleSpot) :
    defineDevice.Reads (.provisionDevice id name type spot) := by
  intro c h hw
  have hid : c.id = .ok id := h.id hw
  have hspot : (Argument.aisle spot).Writable := hw.argument (k := "location") rfl
  unfold defineDevice
  rw [h.aisle (k := "location") rfl, ok_bind, aisleSpot_text c hspot, ok_bind, hid, ok_bind,
    h.text (k := "name") rfl, ok_bind, h.text (k := "type") rfl, ok_bind]
  rfl

theorem reads_updateStore (id : String) (description address : Option String) :
    updateStore.Reads (.updateStore id description address) := by
  intro c h hw
  have hid : c.id = .ok id := h.id hw
  -- One of the two is given, or there would be nothing to change.
  have hgiven : (description.isNone && address.isNone) = false := by
    cases description with
    | some _ => rfl
    | none =>
        cases address with
        | some _ => rfl
        | none => exact absurd rfl (hw.changes id)
  unfold updateStore
  rw [h.get? (k := "description") rfl, h.get? (k := "address") rfl]
  dsimp only
  rw [hgiven, hid]
  rfl

theorem reads_updateInventory (id : String) (delta : Int) :
    updateInventory.Reads (.updateInventory id delta) := by
  intro c h hw
  have hid : c.id = .ok id := h.id hw
  unfold updateInventory
  rw [hid, ok_bind, h.integer (k := "update_count") hw rfl, ok_bind]
  rfl

theorem reads_updateCustomer (id : String) (spot : AisleSpot) :
    updateCustomer.Reads (.updateCustomer id spot) := by
  intro c h hw
  have hid : c.id = .ok id := h.id hw
  have hspot : (Argument.aisle spot).Writable := hw.argument (k := "location") rfl
  unfold updateCustomer
  rw [h.aisle (k := "location") rfl, ok_bind, aisleSpot_text c hspot, ok_bind, hid, ok_bind]
  rfl

theorem reads_deleteStore (id : String) : deleteStore.Reads (.deleteStore id) := by
  intro c h hw
  have hid : c.id = .ok id := h.id hw
  unfold deleteStore
  rw [hid, ok_bind]
  rfl

theorem reads_assignBasket (customer basket : String) :
    assignBasket.Reads (.assignCustomerBasket customer basket) := by
  intro c h hw
  have hid : c.id = .ok basket := h.id hw
  unfold assignBasket
  rw [h.text (k := "customer") rfl, ok_bind, hid, ok_bind]
  rfl

theorem reads_addBasketItem (basket product : String) (quantity : Int) :
    addBasketItem.Reads (.addBasketProduct basket product quantity) := by
  intro c h hw
  have hid : c.id = .ok basket := h.id hw
  unfold addBasketItem
  rw [h.text (k := "product") rfl, ok_bind, h.integer (k := "item_count") hw rfl, ok_bind, hid,
    ok_bind]
  rfl

theorem reads_removeBasketItem (basket product : String) (quantity : Int) :
    removeBasketItem.Reads (.removeBasketProduct basket product quantity) := by
  intro c h hw
  have hid : c.id = .ok basket := h.id hw
  unfold removeBasketItem
  rw [h.text (k := "product") rfl, ok_bind, h.integer (k := "item_count") hw rfl, ok_bind, hid,
    ok_bind]
  rfl

theorem reads_clearBasket (basket : String) : clearBasket.Reads (.clearBasket basket) := by
  intro c h hw
  have hid : c.id = .ok basket := h.id hw
  unfold clearBasket
  rw [hid, ok_bind]
  rfl

theorem reads_createEvent (device event : String) :
    createEvent.Reads (.raiseEvent device event) := by
  intro c h hw
  have hid : c.id = .ok device := h.id hw
  unfold createEvent
  rw [hid, ok_bind, h.text (k := "event") rfl, ok_bind]
  rfl

theorem reads_createCommand (device command : String) :
    createCommand.Reads (.issueCommand device command) := by
  intro c h hw
  have hid : c.id = .ok device := h.id hw
  unfold createCommand
  rw [hid, ok_bind, h.text (k := "message") rfl, ok_bind]
  rfl

theorem Command.Gives.ofCommand {c : Command} {call : Call} (h : c.Gives call) (hw : call.Writable)
    {form : Form} (hform : forms.lookup (" ".intercalate call.verb) = some form)
    (hreads : form.Reads call) : Statement.ofCommand c = .ok (confirms call.asked) := by
  unfold Statement.ofCommand
  rw [h.name, hform]
  exact hreads c h hw

/-- What a command asks that gives the arguments of a call. -/
theorem ofCommand_eq {c : Command} {call : Call} (h : c.Gives call) (hw : call.Writable) :
    Statement.ofCommand c = .ok (confirms call.asked) := by
  cases call with
  | provisionStore id name address =>
      exact h.ofCommand hw rfl (reads_defineStore id name address)
  | provisionAisle spot name description location =>
      exact h.ofCommand hw rfl (reads_defineAisle spot name description location)
  | provisionShelf spot name level description temperature =>
      exact h.ofCommand hw rfl (reads_defineShelf spot name level description temperature)
  | provisionProduct id name description size category price temperature =>
      exact h.ofCommand hw rfl
        (reads_defineProduct id name description size category price temperature)
  | provisionInventory id spot capacity count product type =>
      exact h.ofCommand hw rfl (reads_defineInventory id spot capacity count product type)
  | provisionCustomer id firstName lastName type email account =>
      exact h.ofCommand hw rfl (reads_defineCustomer id firstName lastName type email account)
  | provisionBasket id =>
      exact h.ofCommand hw rfl (reads_defineBasket id)
  | provisionDevice id name type spot =>
      exact h.ofCommand hw rfl (reads_defineDevice id name type spot)
  | updateStore id description address =>
      exact h.ofCommand hw rfl (reads_updateStore id description address)
  | updateInventory id delta =>
      exact h.ofCommand hw rfl (reads_updateInventory id delta)
  | updateCustomer id spot =>
      exact h.ofCommand hw rfl (reads_updateCustomer id spot)
  | deleteStore id =>
      exact h.ofCommand hw rfl (reads_deleteStore id)
  | assignCustomerBasket customer basket =>
      exact h.ofCommand hw rfl (reads_assignBasket customer basket)
  | addBasketProduct basket product quantity =>
      exact h.ofCommand hw rfl (reads_addBasketItem basket product quantity)
  | removeBasketProduct basket product quantity =>
      exact h.ofCommand hw rfl (reads_removeBasketItem basket product quantity)
  | clearBasket basket =>
      exact h.ofCommand hw rfl (reads_clearBasket basket)
  | raiseEvent device event =>
      exact h.ofCommand hw rfl (reads_createEvent device event)
  | issueCommand device command =>
      exact h.ofCommand hw rfl (reads_createCommand device command)

/-- A command gives the arguments of the call that its sentence says, in whatever order. -/
theorem Command.Says.gives {c : Command} {call : Call} {args : List (String × String)}
    (hargs : args.Perm (said call.fields)) (h : c.Says (call.sentence args)) : c.Gives call := by
  refine ⟨h.name, h.target, fun k => ?_⟩
  have hkeys := (said_sublist call.fields).nodup call.nodup_keys
  rw [h.args, ← lookup_said call.nodup_keys]
  exact (Keyed.lookup_eq_of_perm hargs.symm hkeys k).symm

/-- A line that says a call does to the shop what the call does. It fails exactly if the call fails,
    with the same fault, and if it succeeds its answer is the sentence that confirms the call. The
    keywords may come in any order. -/
theorem line_simulates_call (token : Option String) (shop : Shop) (call : Call)
    (hw : call.Writable) (args : List (String × String)) (hargs : args.Perm (said call.fields)) :
    (runLine token (call.sentence args).line).runIn shop =
      ((Shop.run token call.operation shop).1.map (confirmation call.operation),
        (Shop.run token call.operation shop).2) := by
  rcases (hw.formed hargs).read_line with ⟨c, hread, hsaid⟩
  have hstatement : Statement.read (call.sentence args).line = .ok (confirms call.asked) := by
    unfold Statement.read
    rw [hread, ok_bind, ofCommand_eq (hsaid.gives hargs) hw]
  have hline : runLine token (call.sentence args).line =
      confirmation call.operation <$> Shop.perform token call.operation := by
    unfold runLine
    rw [hstatement, ← call.perform_asked, ← call.confirmation_asked]
    rfl
  rw [hline, Act.runIn_map]
  unfold Shop.run
  rcases (Shop.perform token call.operation).runIn shop with ⟨result, shop'⟩
  cases result with
  | ok reply => rfl
  | error fault => rfl

/-- After the morning an aisle is opened by a line, with its keywords in another order, without a
    description and with a location in capitals and blanks. -/
theorem spoken_aisle_after_morning :
    let shop := Shop.runAll .empty Shop.morning
    let call := Call.provisionAisle ⟨"north", "2"⟩ "Milk # Eggs" none (some " FLOOR ")
    (runLine (some "key")
        "define aisle \"north:2\" location \" FLOOR \" name \"Milk # Eggs\"").runIn shop =
      (.ok "Aisle north:2 provisioned", (Shop.run (some "key") call.operation shop).2) := by
  intro shop call
  have hw : call.Writable := by
    refine ⟨⟨⟨by decide, by decide, by decide⟩, by decide, by decide, by decide⟩, by decide,
      fun e he a ha => ?_, fun id => nofun⟩
    simp only [call, Call.fields, List.mem_cons, List.not_mem_nil, or_false] at he
    rcases he with rfl | rfl | rfl
    · cases ha
      exact (by decide : '"' ∉ "Milk # Eggs".toList)
    · cases ha
    · cases ha
      exact (by decide : '"' ∉ " FLOOR ".toList)
  have hargs : [("location", " FLOOR "), ("name", "Milk # Eggs")].Perm (said call.fields) :=
    List.Perm.swap _ _ _
  have hline := line_simulates_call (some "key") shop call hw _ hargs
  have hanswer : (Shop.run (some "key") call.operation shop).1.map (confirmation call.operation) =
      .ok "Aisle north:2 provisioned" := by decide +kernel
  rw [hanswer] at hline
  exact hline

end Script

end Shopfloor
