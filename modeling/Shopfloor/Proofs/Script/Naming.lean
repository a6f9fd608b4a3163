import Shopfloor.Proofs.Script.Dispatch
import Shopfloor.Proofs.Script.Ending
import Shopfloor.Proofs.Script.Line
/-!
# What Lines Name

The ids under which lines register things.

An id comes from a line in one of two ways. It is a word of the line, and then
it has no double quote in it and is not empty. Or it is a part of a compound id,
and then it has no colon in it either. A store is registered under a word, but
everything that stands in a store is registered at a place, and the place is a
compound id. So of a store that has anything in it, it is known that its own id
has no colon in it, although nothing was asked of the id when the store opened.

What a reader hands on when it does not refuse is all that matters here. So
`Hands` says nothing of refusals, and a rule is gone through an argument at a
time, where each argument is known to be a name or a part as it is read. Rules
that register nothing can be passed over.

## Main definitions

* `Script.Argument.IsName`: A text that can be given as an id.
* `Script.Command.Unquoted`: A command in which no text has a double quote.
* `Script.Hands`: What is handed on has a property.
* `Script.Spoken`, `Script.Names`: Places with ids that lines can give, and what is put up there.

## Theorems

* `Script.Command.read_unquoted`: What a line is taken apart into has no double quotes.
* `Script.forms_names`: What the rules register.
* `Script.Scripted.spoken`: The places at which something is registered.
-/

namespace Shopfloor

namespace Script

/-- A text that can be given as an id. -/
def Argument.IsName (s : String) : Prop := s ≠ "" ∧ '"' ∉ s.toList

open Argument (IsName IsPart)

variable {α β : Type} {line : String} {c : Command}

/-! ## Double quotes -/

/-- No double quote is kept. -/
theorem quote_notMem_keptFrom (isOpen : Bool) (cs : List Char) : '"' ∉ keptFrom isOpen cs := by
  fun_induction keptFrom isOpen cs with
  | case1 => exact List.not_mem_nil
  | case2 isOpen cs ih => exact ih
  | case3 isOpen c cs hquote hgap ih => exact ih
  | case4 isOpen c cs hquote hgap ih =>
      rw [List.mem_cons, not_or]
      exact ⟨Ne.symm hquote, ih⟩

/-- No word has a double quote in it. -/
theorem quote_notMem_words {ws : List String} (h : words line = .ok ws) :
    ∀ w ∈ ws, '"' ∉ w.toList := by
  unfold words words? at h
  cases hws : wordsFrom .between line.toList with
  | none =>
      rw [hws] at h
      cases h
  | some found =>
      rw [hws] at h
      cases h
      intro w hw hquote
      rcases List.mem_map.1 hw with ⟨cs, hcs, rfl⟩
      rw [String.toList_ofList] at hquote
      -- Every character of a word is one that is kept.
      have hkept := List.mem_flatten_of_mem hcs hquote
      rw [flatten_wordsFrom _ _ _ hws] at hkept
      exact quote_notMem_keptFrom _ _ hkept

/-- A command in which no text has a double quote. -/
structure Command.Unquoted (c : Command) : Prop where
  target : ∀ t, c.target = some t → '"' ∉ t.toList
  args : c.args.All fun _ v => '"' ∉ v.toList

/-- The values of keywords are words, or words that are joined. -/
theorem addArgs_unquoted {ws : List String} {args args' : Keyed String}
    (hargs : args.All fun _ v => '"' ∉ v.toList) (hws : ∀ w ∈ ws, '"' ∉ w.toList)
    (h : addArgs line args ws = .ok args') : args'.All fun _ v => '"' ∉ v.toList := by
  fun_induction addArgs line args ws with
  | case1 args =>
      cases h
      exact hargs
  | case2 args word rest keyword hfree =>
      have hrest : ∀ w ∈ rest, '"' ∉ w.toList := fun w hw => hws w (List.mem_cons_of_mem _ hw)
      have hjoined : '"' ∉ (" ".intercalate rest).toList :=
        @Text.notMem_intercalate '"' ' ' rest (by decide) hrest
      rw [← Except.ok.inj h]
      exact hargs.insert hjoined
  | case3 => cases h
  | case4 args word keyword hfree value rest ih =>
      rw [List.forall_mem_cons, List.forall_mem_cons] at hws
      exact ih (hargs.insert hws.2.1) hws.2.2 h

/-- The words behind a name are words of the row. -/
theorem Heads.subset {ws rest : List String} {name : String} (h : Heads ws name rest) :
    rest ⊆ ws := by
  cases h with
  | alone _ => exact List.subset_cons_self _ _
  | withObject _ => exact fun w hw => List.mem_cons_of_mem _ (List.mem_cons_of_mem _ hw)

/-- What a line is taken apart into has no double quotes. -/
theorem Command.read_unquoted (h : Command.read line = .ok c) : c.Unquoted := by
  rcases Command.read_eq_ok_iff.1 h with ⟨ws, rest, hws, hheads, htarget, hargs, -⟩
  have hrest : ∀ w ∈ rest, '"' ∉ w.toList := fun w hw =>
    quote_notMem_words hws w (hheads.subset hw)
  refine ⟨fun t ht => ?_, ?_⟩
  · rw [htarget] at ht
    exact hrest t (List.mem_of_head? ht)
  · exact addArgs_unquoted (Keyed.All.empty _) (fun w hw => hrest w (List.mem_of_mem_drop hw)) hargs

/-! ## What rules register -/

/-- What a reader hands on, if it does not refuse, has a property. -/
def Hands (x : Except Fault α) (Q : α → Prop) : Prop := ∀ a, x = .ok a → Q a

theorem hands_ok {a : α} {Q : α → Prop} (h : Q a) : Hands (.ok a) Q :=
  fun _ hb => Except.ok.inj hb ▸ h

theorem hands_error (e : Fault) (Q : α → Prop) : Hands (.error e) Q := nofun

/-- Of what is handed on something is known, if only that it is handed on. -/
theorem hands_any (x : Except Fault α) : Hands x fun _ => True := fun _ _ => trivial

theorem hands_bind {x : Except Fault α} {f : α → Except Fault β} {P : α → Prop} {Q : β → Prop}
    (hx : Hands x P) (hf : ∀ a, P a → Hands (f a) Q) : Hands (x >>= f) Q := by
  intro b hb
  rcases bind_eq_ok_iff.1 hb with ⟨a, ha, hb⟩
  exact hf a (hx a ha) b hb

/-- A place with ids that lines can give. Whatever stands in a store is given with the store as a
    part of a compound id. -/
def Spoken : Place → Prop
  | .fitting k .itself => IsName k
  | .fitting k (.aisle n) => IsPart k ∧ IsPart n
  | .fitting k (.shelf n i) => IsPart k ∧ IsPart n ∧ IsPart i
  | .fitting k (.inventory i) | .fitting k (.device i) => IsPart k ∧ IsName i
  | .product i | .customer i | .basket i => IsName i

/-- An operation registers nothing but at places with ids that lines can give. -/
def Names (op : Operation) : Prop := ∀ place record, Registers op place record → Spoken place

section Arguments

variable (hc : c.Unquoted)
include hc

theorem id_names : Hands c.id IsName := by
  unfold Command.id
  split
  · exact hands_error _ _
  · exact hands_error _ _
  · rename_i t hne htarget
    exact hands_ok ⟨hne, hc.target t htarget⟩

theorem arg_unquoted (k : String) : Hands (c.arg k) fun v => '"' ∉ v.toList := by
  unfold Command.arg
  split
  · rename_i v hv
    exact hands_ok (hc.args k v hv)
  · exact hands_error _ _

omit hc

theorem splitLocation_parts {value : String} (hvalue : '"' ∉ value.toList) (parts : Int) :
    Hands (splitLocation value parts line) fun pieces => ∀ p ∈ pieces, IsPart p := by
  intro pieces h p hp
  have hpieces := (splitLocation_eq_ok_iff.1 h).1
  refine ⟨(hpieces.parts p hp).1, (hpieces.parts p hp).2, fun hquote => hvalue ?_⟩
  rw [← hpieces.split] at hp
  exact Text.mem_of_mem_split hp hquote

theorem aisleSpot_parts {value : String} (hvalue : '"' ∉ value.toList) :
    Hands (c.aisleSpot value) fun spot => IsPart spot.store ∧ IsPart spot.aisle := by
  refine hands_bind (splitLocation_parts hvalue 2) fun pieces hpieces => ?_
  split
  · simp only [List.forall_mem_cons] at hpieces
    exact hands_ok ⟨hpieces.1, hpieces.2.1⟩
  · exact hands_error _ _

theorem shelfSpot_parts {value : String} (hvalue : '"' ∉ value.toList) :
    Hands (c.shelfSpot value) fun spot =>
      IsPart spot.store ∧ IsPart spot.aisle ∧ IsPart spot.shelf := by
  refine hands_bind (splitLocation_parts hvalue 3) fun pieces hpieces => ?_
  split
  · simp only [List.forall_mem_cons] at hpieces
    exact hands_ok ⟨hpieces.1, hpieces.2.1, hpieces.2.2.1⟩
  · exact hands_error _ _

end Arguments

section Forms

variable (c : Command) (hc : c.Unquoted)
include hc

theorem defineStore_names : Hands (defineStore c) fun s => Names s.operation := by
  refine hands_bind (id_names hc) fun id hid => ?_
  refine hands_bind (hands_any _) fun name _ => ?_
  refine hands_bind (hands_any _) fun address _ => ?_
  refine hands_ok fun place record h => ?_
  cases h
  exact hid

theorem defineAisle_names : Hands (defineAisle c) fun s => Names s.operation := by
  refine hands_bind (id_names hc) fun id hid => ?_
  refine hands_bind (aisleSpot_parts hid.2) fun spot hspot => ?_
  refine hands_bind (hands_any _) fun name _ => ?_
  refine hands_ok fun place record h => ?_
  cases h
  exact hspot

theorem defineShelf_names : Hands (defineShelf c) fun s => Names s.operation := by
  refine hands_bind (id_names hc) fun id hid => ?_
  refine hands_bind (shelfSpot_parts hid.2) fun spot hspot => ?_
  refine hands_bind (hands_any _) fun name _ => ?_
  refine hands_bind (hands_any _) fun level _ => ?_
  refine hands_bind (hands_any _) fun temperature _ => ?_
  refine hands_ok fun place record h => ?_
  cases h
  exact hspot

theorem defineProduct_names : Hands (defineProduct c) fun s => Names s.operation := by
  refine hands_bind (id_names hc) fun id hid => ?_
  refine hands_bind (hands_any _) fun name _ => ?_
  refine hands_bind (hands_any _) fun price _ => ?_
  refine hands_bind (hands_any _) fun temperature _ => ?_
  refine hands_ok fun place record h => ?_
  cases h
  exact hid

theorem defineInventory_names : Hands (defineInventory c) fun s => Names s.operation := by
  refine hands_bind (arg_unquoted hc _) fun value hvalue => ?_
  refine hands_bind (shelfSpot_parts hvalue) fun spot hspot => ?_
  refine hands_bind (id_names hc) fun id hid => ?_
  refine hands_bind (hands_any _) fun capacity _ => ?_
  refine hands_bind (hands_any _) fun count _ => ?_
  refine hands_bind (hands_any _) fun product _ => ?_
  refine hands_ok fun place record h => ?_
  cases h
  exact ⟨hspot.1, hid⟩

theorem defineCustomer_names : Hands (defineCustomer c) fun s => Names s.operation := by
  refine hands_bind (id_names hc) fun id hid => ?_
  refine hands_bind (hands_any _) fun firstName _ => ?_
  refine hands_bind (hands_any _) fun lastName _ => ?_
  refine hands_bind (hands_any _) fun type _ => ?_
  refine hands_bind (hands_any _) fun email _ => ?_
  refine hands_bind (hands_any _) fun account _ => ?_
  refine hands_ok fun place record h => ?_
  cases h
  exact hid

theorem defineBasket_names : Hands (defineBasket c) fun s => Names s.operation := by
  refine hands_bind (id_names hc) fun id hid => ?_
  refine hands_ok fun place record h => ?_
  cases h
  exact hid

theorem defineDevice_names : Hands (defineDevice c) fun s => Names s.operation := by
  refine hands_bind (arg_unquoted hc _) fun value hvalue => ?_
  refine hands_bind (aisleSpot_parts hvalue) fun spot hspot => ?_
  refine hands_bind (id_names hc) fun id hid => ?_
  refine hands_bind (hands_any _) fun name _ => ?_
  refine hands_bind (hands_any _) fun type _ => ?_
  refine hands_ok fun place record h => ?_
  cases h
  exact ⟨hspot.1, hid⟩

end Forms

/-- An operation that registers something when it succeeds. -/
def Defines : Operation → Bool
  | .provisionStore .. | .provisionAisle .. | .provisionShelf .. | .provisionProduct ..
  | .provisionInventory .. | .provisionCustomer .. | .provisionBasket .. | .provisionDevice .. =>
    true
  | _ => false

theorem defines_of_registers {op : Operation} {place : Place} {record : Provisioned}
    (h : Registers op place record) : Defines op = true := by
  cases h <;> rfl

/-- What is read registers nothing. -/
def Silent (x : Except Fault Statement) : Prop := Hands x fun s => Defines s.operation = false

theorem silent_ok {s : Statement} (h : Defines s.operation = false) : Silent (.ok s) := hands_ok h

theorem silent_bind {x : Except Fault α} {f : α → Except Fault Statement}
    (hf : ∀ a, Silent (f a)) : Silent (x >>= f) :=
  hands_bind (hands_any x) fun a _ => hf a

theorem updateStore_silent (c : Command) : Silent (updateStore c) := by
  unfold updateStore
  dsimp only
  split
  · exact hands_error _ _
  · exact silent_bind fun _ => silent_ok rfl

/-- The rules that define nothing register nothing, whatever they read. -/
theorem forms_silent : ∀ rule ∈ forms.drop 8, ∀ c, Silent (rule.2 c) := by
  unfold forms
  simp only [List.drop_succ_cons, List.drop_zero, List.forall_mem_cons, List.not_mem_nil,
    false_imp_iff, implies_true, and_true]
  refine ⟨?_, ?showAisle, ?showShelf, ?_, ?_, ?_, ?_, ?_, ?_, updateStore_silent, ?updateInventory,
    ?updateCustomer, ?_, ?assignBasket, ?_, ?addBasketItem, ?removeBasketItem, ?_, ?createEvent,
    ?createCommand⟩ <;> intro c
  case showAisle | showShelf | updateInventory | assignBasket | createEvent | createCommand =>
    exact silent_bind fun _ => silent_bind fun _ => silent_ok rfl
  case updateCustomer | addBasketItem | removeBasketItem =>
    exact silent_bind fun _ => silent_bind fun _ => silent_bind fun _ => silent_ok rfl
  -- The other rules read nothing but the id.
  all_goals exact silent_bind fun _ => silent_ok rfl

/-- Every rule registers at places with ids that lines can give, if it registers anything. -/
theorem forms_names :
    ∀ rule ∈ forms, ∀ c, c.Unquoted → Hands (rule.2 c) fun s => Names s.operation := by
  have hforms : forms = forms.take 8 ++ forms.drop 8 := (List.take_append_drop 8 forms).symm
  intro rule hrule c hc
  rw [hforms, List.mem_append] at hrule
  rcases hrule with hrule | hrule
  · revert rule
    unfold forms
    simp only [List.take_succ_cons, List.take_zero, List.forall_mem_cons, List.not_mem_nil,
      false_imp_iff, implies_true, and_true]
    exact ⟨defineStore_names c hc, defineAisle_names c hc, defineShelf_names c hc,
      defineProduct_names c hc, defineInventory_names c hc, defineCustomer_names c hc,
      defineBasket_names c hc, defineDevice_names c hc⟩
  · intro s hs place record h
    have hsilent : Defines s.operation = false := forms_silent rule hrule c s hs
    rw [defines_of_registers h] at hsilent
    cases hsilent

/-- What a line asks for is registered at places with ids that lines can give. -/
theorem Asked.names {op : Operation} (h : Asked op) : Names op := by
  rcases h with ⟨line, s, hread, rfl⟩
  rcases bind_eq_ok_iff.1 hread with ⟨c, hc, hread⟩
  unfold Statement.ofCommand at hread
  split at hread
  · rename_i form hform
    exact forms_names _ (mem_forms hform) c (Command.read_unquoted hc) s hread
  · cases hread

/-- In a shop that lines have led to, everything is registered under ids that lines can give. -/
theorem Scripted.spoken {shop : Shop} (h : Scripted shop) {place : Place} {record : Provisioned}
    (hrecord : shop.provisioned? place = some record) : Spoken place := by
  rcases h.exists_calls with ⟨calls, rfl, hasked⟩
  rcases Shop.runAll_registered hrecord with ⟨call, hcall, hput⟩
  exact (hasked call hcall).names place record hput

end Script

end Shopfloor
