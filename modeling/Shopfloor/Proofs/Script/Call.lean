import Shopfloor.Proofs.Number.Integer
import Shopfloor.Proofs.Script.Command
import Shopfloor.Script.Statement
/-!
# Calls in Words

Everything that a command line can ask to be changed, as a call of the shop and
as a sentence.

A `Call` is a call of the shop with all arguments that it cannot do without. It
can be made directly, which is the `Operation` it is, or it can be said. What it
says is data: the words of the verb, what the call is about, and a table of
fields, each a keyword with the argument behind it or with nothing. Arguments
are of a few kinds, each with its own way to be written and its own conditions
under which what is written can be read. So all calls are put into words by one
definition, and that the words can be said is one proof.

An argument that is left out leaves no keyword behind. The rules that read a
command fill in the empty text for some of them. `Call.asked` is the operation
with these filled in; that the shop sees no difference is proved with the rules.

## Main definitions

* `Script.Call`: A call of the shop.
* `Script.Call.operation`: The call as it is made directly.
* `Script.Argument`: An argument as it is written, and when it can be.
* `Script.Call.sentence`: The call as it is said.
* `Script.Call.Writable`: A call that can be said.

## Theorems

* `Argument.Writable.noQuote`: What can be written has no double quote in it.
* `lookup_said`: What stands behind a keyword of a sentence.
* `Call.Writable.formed`: The sentence of a call can be said.
-/

namespace Shopfloor

namespace Script

/-- A call of the shop, with all arguments that it cannot do without. -/
inductive Call
  | provisionStore (id name address : String)
  | provisionAisle (spot : AisleSpot) (name : String) (description location : Option String)
  | provisionShelf (spot : ShelfSpot) (name level : String) (description : Option String)
      (temperature : String)
  | provisionProduct (id name : String) (description size category : Option String)
      (price temperature : String)
  | provisionInventory (id : String) (spot : ShelfSpot) (capacity count : Int) (product : String)
      (type : Option String)
  | provisionCustomer (id firstName lastName type email account : String)
  | provisionBasket (id : String)
  | provisionDevice (id name type : String) (spot : AisleSpot)
  | updateStore (id : String) (description address : Option String)
  | updateInventory (id : String) (delta : Int)
  | updateCustomer (id : String) (spot : AisleSpot)
  | deleteStore (id : String)
  | assignCustomerBasket (customer basket : String)
  | addBasketProduct (basket product : String) (quantity : Int)
  | removeBasketProduct (basket product : String) (quantity : Int)
  | clearBasket (basket : String)
  | raiseEvent (device event : String)
  | issueCommand (device command : String)

/-- An argument of a call, by the way in which it is written. -/
inductive Argument
  | text (s : String)
  /-- A price is given as the text of a number. -/
  | price (s : String)
  | integer (n : Int)
  | aisle (spot : AisleSpot)
  | shelf (spot : ShelfSpot)

namespace Argument

/-- An argument as it is written. -/
def written : Argument → String
  | .text s => s
  | .price s => s
  | .integer n => toString n
  | .aisle spot => spot.text
  | .shelf spot => spot.text

/-- A part of a compound id that can be told from the others. -/
def IsPart (s : String) : Prop := s ≠ "" ∧ ':' ∉ s.toList ∧ '"' ∉ s.toList

/-- An argument that can be read from what is written for it. -/
def Writable : Argument → Prop
  | .text s => '"' ∉ s.toList
  | .price s => '"' ∉ s.toList ∧ ∃ x, Number.readDecimal s = some x
  | .integer n => Number.writable n = true
  | .aisle spot => IsPart spot.store ∧ IsPart spot.aisle
  | .shelf spot => IsPart spot.store ∧ IsPart spot.aisle ∧ IsPart spot.shelf

end Argument

namespace Call

/-- The call as it is made directly. -/
def operation : Call → Operation
  | .provisionStore id name address => .provisionStore id name address
  | .provisionAisle spot name description location =>
    .provisionAisle spot.store spot.aisle name description location
  | .provisionShelf spot name level description temperature =>
    .provisionShelf spot.store spot.aisle spot.shelf name level description temperature
  | .provisionProduct id name description size category price temperature =>
    .provisionProduct id name description size category (Number.readDecimal price) temperature
  | .provisionInventory id spot capacity count product type =>
    .provisionInventory id spot.store spot.aisle spot.shelf capacity count product type
  | .provisionCustomer id firstName lastName type email account =>
    .provisionCustomer id firstName lastName type email account
  | .provisionBasket id => .provisionBasket id
  | .provisionDevice id name type spot => .provisionDevice id name type spot.store spot.aisle
  | .updateStore id description address => .updateStore id description address
  | .updateInventory id delta => .updateInventory id delta
  | .updateCustomer id spot => .updateCustomer id spot.store spot.aisle
  | .deleteStore id => .deleteStore id
  | .assignCustomerBasket customer basket => .assignCustomerBasket customer basket
  | .addBasketProduct basket product quantity => .addBasketProduct basket product quantity
  | .removeBasketProduct basket product quantity => .removeBasketProduct basket product quantity
  | .clearBasket basket => .clearBasket basket
  | .raiseEvent device event => .raiseEvent device event
  | .issueCommand device command => .issueCommand device command

/-- The words of the verb. -/
def verb : Call → List String
  | .provisionStore .. => ["define", "store"]
  | .provisionAisle .. => ["define", "aisle"]
  | .provisionShelf .. => ["define", "shelf"]
  | .provisionProduct .. => ["define", "product"]
  | .provisionInventory .. => ["define", "inventory"]
  | .provisionCustomer .. => ["define", "customer"]
  | .provisionBasket .. => ["define", "basket"]
  | .provisionDevice .. => ["define", "device"]
  | .updateStore .. => ["update", "store"]
  | .updateInventory .. => ["update", "inventory"]
  | .updateCustomer .. => ["update", "customer"]
  | .deleteStore .. => ["delete", "store"]
  | .assignCustomerBasket .. => ["assign", "basket"]
  | .addBasketProduct .. => ["add_basket_item"]
  | .removeBasketProduct .. => ["remove_basket_item"]
  | .clearBasket .. => ["clear_basket"]
  | .raiseEvent .. => ["create_event"]
  | .issueCommand .. => ["create", "command"]

/-- What the call is about. -/
def target : Call → Argument
  | .provisionStore id .. => .text id
  | .provisionAisle spot .. => .aisle spot
  | .provisionShelf spot .. => .shelf spot
  | .provisionProduct id .. => .text id
  | .provisionInventory id .. => .text id
  | .provisionCustomer id .. => .text id
  | .provisionBasket id => .text id
  | .provisionDevice id .. => .text id
  | .updateStore id .. => .text id
  | .updateInventory id _ => .text id
  | .updateCustomer id _ => .text id
  | .deleteStore id => .text id
  | .assignCustomerBasket _ basket => .text basket
  | .addBasketProduct basket .. => .text basket
  | .removeBasketProduct basket .. => .text basket
  | .clearBasket basket => .text basket
  | .raiseEvent device _ => .text device
  | .issueCommand device _ => .text device

/-- The keywords of the call, each with the argument that stands behind it, if one is given. -/
def fields : Call → List (String × Option Argument)
  | .provisionStore _ name address =>
    [("name", some (.text name)), ("address", some (.text address))]
  | .provisionAisle _ name description location =>
    [("name", some (.text name)), ("description", description.map .text),
      ("location", location.map .text)]
  | .provisionShelf _ name level description temperature =>
    [("name", some (.text name)), ("level", some (.text level)),
      ("description", description.map .text), ("temperature", some (.text temperature))]
  | .provisionProduct _ name description size category price temperature =>
    [("name", some (.text name)), ("description", description.map .text),
      ("size", size.map .text), ("category", category.map .text),
      ("unit_price", some (.price price)), ("temperature", some (.text temperature))]
  | .provisionInventory _ spot capacity count product type =>
    [("location", some (.shelf spot)), ("capacity", some (.integer capacity)),
      ("count", some (.integer count)), ("product", some (.text product)),
      ("type", type.map .text)]
  | .provisionCustomer _ firstName lastName type email account =>
    [("first_name", some (.text firstName)), ("last_name", some (.text lastName)),
      ("type", some (.text type)), ("email_address", some (.text email)),
      ("account", some (.text account))]
  | .provisionBasket _ => []
  | .provisionDevice _ name type spot =>
    [("name", some (.text name)), ("type", some (.text type)), ("location", some (.aisle spot))]
  | .updateStore _ description address =>
    [("description", description.map .text), ("address", address.map .text)]
  | .updateInventory _ delta => [("update_count", some (.integer delta))]
  | .updateCustomer _ spot => [("location", some (.aisle spot))]
  | .deleteStore _ => []
  | .assignCustomerBasket customer _ => [("customer", some (.text customer))]
  | .addBasketProduct _ product quantity =>
    [("product", some (.text product)), ("item_count", some (.integer quantity))]
  | .removeBasketProduct _ product quantity =>
    [("product", some (.text product)), ("item_count", some (.integer quantity))]
  | .clearBasket _ => []
  | .raiseEvent _ event => [("event", some (.text event))]
  | .issueCommand _ command => [("message", some (.text command))]

/-- A call that can be said: what it is about is not the empty text, every argument can be written,
    and an update says what to change. -/
structure Writable (call : Call) : Prop where
  target : call.target.Writable
  named : call.target.written ≠ ""
  fields : ∀ e ∈ call.fields, ∀ a, e.2 = some a → a.Writable
  changes : ∀ id, call ≠ .updateStore id none none

end Call

/-- The keywords that are said, with what is written behind them. What is not given is left out. -/
def said (fields : List (String × Option Argument)) : List (String × String) :=
  fields.filterMap fun e => e.2.map fun a => (e.1, a.written)

/-- The call as it is said, with its keywords and values in some order. -/
def Call.sentence (call : Call) (args : List (String × String)) : Sentence :=
  ⟨call.verb, call.target.written, args⟩

/-- Compound ids are written with colons between their parts. -/
theorem aisleText_eq (spot : AisleSpot) :
    spot.text = (String.singleton ':').intercalate [spot.store, spot.aisle] := rfl

theorem shelfText_eq (spot : ShelfSpot) :
    spot.text = (String.singleton ':').intercalate [spot.store, spot.aisle, spot.shelf] := rfl

/-- What can be written has no double quote in it. -/
theorem Argument.Writable.noQuote {a : Argument} (h : a.Writable) : '"' ∉ a.written.toList := by
  cases a with
  | text s => exact h
  | price s => exact h.1
  | integer n =>
      intro hquote
      rcases Number.mem_toString hquote with hminus | hdigit
      · exact absurd hminus (by decide)
      · exact absurd hdigit (by decide)
  | aisle spot =>
      change '"' ∉ spot.text.toList
      rw [aisleText_eq]
      refine Text.notMem_intercalate (by decide) fun s hs => ?_
      rw [List.mem_cons, List.mem_singleton] at hs
      rcases hs with rfl | rfl
      · exact h.1.2.2
      · exact h.2.2.2
  | shelf spot =>
      change '"' ∉ spot.text.toList
      rw [shelfText_eq]
      refine Text.notMem_intercalate (by decide) fun s hs => ?_
      rw [List.mem_cons, List.mem_cons, List.mem_singleton] at hs
      rcases hs with rfl | rfl | rfl
      · exact h.1.2.2
      · exact h.2.1.2.2
      · exact h.2.2.2.2

/-- The keywords of a sentence are those of the fields that are given. -/
theorem said_sublist (fields : List (String × Option Argument)) :
    ((said fields).map Prod.fst).Sublist (fields.map Prod.fst) := by
  induction fields with
  | nil => exact List.Sublist.refl _
  | cons e fields ih =>
      rcases e with ⟨k, none | a⟩
      · exact ih.cons k
      · exact ih.cons_cons k

/-- What stands behind a keyword of a sentence. -/
theorem lookup_said {fields : List (String × Option Argument)}
    (hkeys : (fields.map Prod.fst).Nodup) (k : String) :
    (said fields).lookup k = (fields.lookup k).join.map Argument.written := by
  induction fields with
  | nil => rfl
  | cons e fields ih =>
      rw [List.map_cons, List.nodup_cons] at hkeys
      have hnext := ih hkeys.2
      rcases e with ⟨k', none | a⟩
      · -- A field that is not given leaves no keyword behind, and no other field has its name.
        have hsaid : said ((k', none) :: fields) = said fields := rfl
        rw [hsaid, hnext, List.lookup_cons]
        by_cases hk : k = k'
        · have hnone : fields.lookup k = none := by
            rw [Keyed.lookup_eq_none_iff, hk]
            exact hkeys.1
          rw [hnone, beq_iff_eq.2 hk]
          rfl
        · rw [beq_false_of_ne hk]
      · have hsaid : said ((k', some a) :: fields) = (k', a.written) :: said fields := rfl
        rw [hsaid, List.lookup_cons, List.lookup_cons]
        by_cases hk : k = k'
        · rw [beq_iff_eq.2 hk]
          rfl
        · rw [beq_false_of_ne hk]
          exact hnext

namespace Call

variable {call : Call}

/-- Verbs and keywords are plain, and no keyword comes twice. -/
theorem plain (call : Call) :
    ∀ w ∈ call.verb ++ call.fields.map Prod.fst, w ≠ "" ∧ w.toList.all Text.isPlain = true := by
  cases call <;> simp only [verb, fields, List.map_cons, List.map_nil] <;> decide +kernel

theorem nodup_keys (call : Call) : (call.fields.map Prod.fst).Nodup := by
  cases call <;> simp only [fields, List.map_cons, List.map_nil] <;> decide +kernel

/-- A verb takes an object or not. -/
theorem verb_cases (call : Call) :
    (∃ v, call.verb = [v] ∧ v ∉ compoundVerbs) ∨ ∃ v o, call.verb = [v, o] ∧ v ∈ compoundVerbs := by
  cases call <;> first
    | exact Or.inl ⟨_, rfl, by decide +kernel⟩
    | exact Or.inr ⟨_, _, rfl, by decide +kernel⟩

/-- A keyword with free text is the only keyword. -/
theorem alone (call : Call) :
    ∀ k ∈ call.fields.map Prod.fst, isFreeText k = true → call.fields.map Prod.fst = [k] := by
  cases call <;> simp only [fields, List.map_cons, List.map_nil] <;> decide +kernel

/-- The sentence of a call can be said, in whatever order its keywords come. -/
theorem Writable.formed (h : call.Writable) {args : List (String × String)}
    (hargs : args.Perm (said call.fields)) : (call.sentence args).Formed := by
  have hkeys := hargs.map Prod.fst
  have hsub := said_sublist call.fields
  have hmem : ∀ k ∈ args.map Prod.fst, k ∈ call.fields.map Prod.fst := fun k hk =>
    hsub.subset (hkeys.subset hk)
  constructor
  case plain =>
    intro w hw
    refine call.plain w ?_
    rcases List.mem_append.1 hw with hverb | hkey
    · exact List.mem_append_left _ hverb
    · exact List.mem_append_right _ (hmem w hkey)
  case verb => exact call.verb_cases
  case keys => exact (hkeys.nodup_iff).2 (hsub.nodup call.nodup_keys)
  case alone =>
    intro e he hfree
    have hkey : e.1 ∈ args.map Prod.fst := List.mem_map.2 ⟨e, he, rfl⟩
    -- The call has this one field, so no more than one keyword is said.
    have hone := call.alone e.1 (hmem e.1 hkey) hfree
    have hlength : args.length = 1 := by
      have hle : args.length ≤ 1 := by
        have hle := hsub.length_le
        rw [hone, List.length_map] at hle
        exact hargs.length_eq.trans_le hle
      exact Nat.le_antisymm hle (List.length_pos_of_mem he)
    rcases List.length_eq_one_iff.1 hlength with ⟨e', rfl⟩
    exact congrArg (fun e => [e]) (List.mem_singleton.1 he).symm
  case target => exact h.target.noQuote
  case values =>
    intro e he
    rcases List.mem_filterMap.1 (hargs.subset he) with ⟨field, hfield, hsaid⟩
    rcases Option.map_eq_some_iff.1 hsaid with ⟨a, ha, rfl⟩
    exact (h.fields field hfield a ha).noQuote

end Call

end Script

end Shopfloor
