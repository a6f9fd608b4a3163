import Shopfloor.Proofs.Act.Refusal
import Shopfloor.Proofs.Script.Dispatch
/-!
# What a Line Can Ask

Whatever a line says, reading it comes to one of two things. Either the line
is refused, as a line, or it asks for an operation with everything given that
the operation needs.

`Reads` is the form of every statement here. It goes along with the readers,
which take a word or an argument at a time and hand on what they have read. All
that has to be known of an argument is known where it is read: an id and the
value of a keyword are texts, and a whole number has at most as many digits as
are read, so it can be written again.

What is shown as a record or as lines was only looked up. All that changes
something is confirmed in a sentence.

## Main definitions

* `Script.Reads`: Reading comes to something with a property, or refuses the line.
* `Script.Looks`: Whether an operation only looks.
* `Script.Statement.Fair`: A statement that a line can make.

## Theorems

* `Script.forms_read`: What the rules read.
* `Script.read_reads`: What a line can ask.
-/

namespace Shopfloor

namespace Script

variable {α β : Type}

/-- Reading comes to something with a property, or the line is refused. -/
structure Reads (x : Except Fault α) (Q : α → Prop) : Prop where
  ok : ∀ a, x = .ok a → Q a
  error : ∀ e, x = .error e → ∃ line flaw, e = .unreadable line flaw

theorem reads_ok {a : α} {Q : α → Prop} (h : Q a) : Reads (.ok a) Q :=
  ⟨fun _ hb => Except.ok.inj hb ▸ h, nofun⟩

theorem reads_unreadable (line : String) (flaw : LineFlaw) (Q : α → Prop) :
    Reads (.error (.unreadable line flaw)) Q :=
  ⟨nofun, fun _ he => ⟨line, flaw, (Except.error.inj he).symm⟩⟩

theorem reads_bind {x : Except Fault α} {f : α → Except Fault β} {P : α → Prop} {Q : β → Prop}
    (hx : Reads x P) (hf : ∀ a, P a → Reads (f a) Q) : Reads (x >>= f) Q := by
  cases x with
  | ok a => exact hf a (hx.ok a rfl)
  | error e =>
      rcases hx.error e rfl with ⟨line, flaw, rfl⟩
      exact reads_unreadable line flaw Q

/-! ## Arguments -/

section Arguments

variable (c : Command)

theorem id_reads : Reads c.id fun _ => True := by
  unfold Command.id
  split
  · exact reads_unreadable _ _ _
  · exact reads_unreadable _ _ _
  · exact reads_ok trivial

theorem arg_reads (k : String) : Reads (c.arg k) fun _ => True := by
  unfold Command.arg
  split
  · exact reads_ok trivial
  · exact reads_unreadable _ _ _

theorem integer_reads (k : String) : Reads (c.integer k) fun n => Number.writable n = true := by
  refine reads_bind (arg_reads c k) fun value _ => ?_
  split
  · rename_i n hn
    exact reads_ok (Number.writable_of_readInt hn)
  · exact reads_unreadable _ _ _

theorem number_reads (k : String) : Reads (c.number k) fun _ => True := by
  refine reads_bind (arg_reads c k) fun value _ => ?_
  split
  · exact reads_ok trivial
  · exact reads_unreadable _ _ _

theorem splitLocation_reads (value : String) (parts : Int) (line : String) :
    Reads (splitLocation value parts line) fun _ => True := by
  unfold splitLocation
  dsimp only
  split
  · exact reads_ok trivial
  · exact reads_unreadable _ _ _

theorem aisleSpot_reads (value : String) : Reads (c.aisleSpot value) fun _ => True := by
  refine reads_bind (splitLocation_reads value 2 c.line) fun parts _ => ?_
  split
  · exact reads_ok trivial
  · exact reads_unreadable _ _ _

theorem shelfSpot_reads (value : String) : Reads (c.shelfSpot value) fun _ => True := by
  refine reads_bind (splitLocation_reads value 3 c.line) fun parts _ => ?_
  split
  · exact reads_ok trivial
  · exact reads_unreadable _ _ _

end Arguments

/-! ## Statements -/

/-- An operation that only looks. -/
def Looks : Operation → Bool
  | .showStore .. | .showAisle .. | .showShelf .. | .showProduct .. | .showInventory ..
  | .showCustomer .. | .showBasket .. | .getCustomerBasket .. | .showDevice .. => true
  | _ => false

/-- A statement that a line can make: everything needed is given, and what is shown is looked up. -/
structure Statement.Fair (s : Statement) : Prop where
  given : s.operation.Given
  looks : s.display ≠ .confirmation → Looks s.operation = true

theorem fair_confirms {op : Operation} (h : op.Given) : (confirms op).Fair :=
  ⟨h, fun hne => absurd rfl hne⟩

theorem fair_shows {op : Operation} (h : op.Given) (hlooks : Looks op = true) : (shows op).Fair :=
  ⟨h, fun _ => hlooks⟩

section Forms

variable (c : Command)

theorem defineStore_reads : Reads (defineStore c) Statement.Fair := by
  refine reads_bind (id_reads c) fun id _ => ?_
  refine reads_bind (arg_reads c _) fun name _ => ?_
  refine reads_bind (arg_reads c _) fun address _ => ?_
  exact reads_ok (fair_confirms (.provisionStore id name address))

theorem defineAisle_reads : Reads (defineAisle c) Statement.Fair := by
  refine reads_bind (id_reads c) fun id _ => ?_
  refine reads_bind (aisleSpot_reads c id) fun spot _ => ?_
  refine reads_bind (arg_reads c _) fun name _ => ?_
  exact reads_ok (fair_confirms (.provisionAisle spot.store spot.aisle name _ _))

theorem defineShelf_reads : Reads (defineShelf c) Statement.Fair := by
  refine reads_bind (id_reads c) fun id _ => ?_
  refine reads_bind (shelfSpot_reads c id) fun spot _ => ?_
  refine reads_bind (arg_reads c _) fun name _ => ?_
  refine reads_bind (arg_reads c _) fun level _ => ?_
  refine reads_bind (arg_reads c _) fun temperature _ => ?_
  exact reads_ok (fair_confirms (.provisionShelf spot.store spot.aisle spot.shelf name _ _ _))

theorem defineProduct_reads : Reads (defineProduct c) Statement.Fair := by
  refine reads_bind (id_reads c) fun id _ => ?_
  refine reads_bind (arg_reads c _) fun name _ => ?_
  refine reads_bind (number_reads c _) fun price _ => ?_
  refine reads_bind (arg_reads c _) fun temperature _ => ?_
  exact reads_ok (fair_confirms (.provisionProduct id name _ _ _ _ _))

theorem defineInventory_reads : Reads (defineInventory c) Statement.Fair := by
  refine reads_bind (arg_reads c _) fun place _ => ?_
  refine reads_bind (shelfSpot_reads c place) fun spot _ => ?_
  refine reads_bind (id_reads c) fun id _ => ?_
  refine reads_bind (integer_reads c _) fun capacity hcapacity => ?_
  refine reads_bind (integer_reads c _) fun count hcount => ?_
  refine reads_bind (arg_reads c _) fun product _ => ?_
  exact reads_ok (fair_confirms (.provisionInventory id _ _ _ hcapacity hcount _ _))

theorem defineCustomer_reads : Reads (defineCustomer c) Statement.Fair := by
  refine reads_bind (id_reads c) fun id _ => ?_
  refine reads_bind (arg_reads c _) fun firstName _ => ?_
  refine reads_bind (arg_reads c _) fun lastName _ => ?_
  refine reads_bind (arg_reads c _) fun type _ => ?_
  refine reads_bind (arg_reads c _) fun email _ => ?_
  refine reads_bind (arg_reads c _) fun account _ => ?_
  exact reads_ok (fair_confirms (.provisionCustomer id firstName lastName type email account))

theorem defineDevice_reads : Reads (defineDevice c) Statement.Fair := by
  refine reads_bind (arg_reads c _) fun place _ => ?_
  refine reads_bind (aisleSpot_reads c place) fun spot _ => ?_
  refine reads_bind (id_reads c) fun id _ => ?_
  refine reads_bind (arg_reads c _) fun name _ => ?_
  refine reads_bind (arg_reads c _) fun type _ => ?_
  exact reads_ok (fair_confirms (.provisionDevice id name type _ _))

theorem showAisle_reads : Reads (showAisle c) Statement.Fair := by
  refine reads_bind (id_reads c) fun id _ => ?_
  refine reads_bind (aisleSpot_reads c id) fun spot _ => ?_
  exact reads_ok (fair_shows (.showAisle _ _) rfl)

theorem showShelf_reads : Reads (showShelf c) Statement.Fair := by
  refine reads_bind (id_reads c) fun id _ => ?_
  refine reads_bind (shelfSpot_reads c id) fun spot _ => ?_
  exact reads_ok (fair_shows (.showShelf _ _ _) rfl)

theorem updateStore_reads : Reads (updateStore c) Statement.Fair := by
  unfold updateStore
  dsimp only
  split
  · exact reads_unreadable _ _ _
  · refine reads_bind (id_reads c) fun id _ => ?_
    exact reads_ok (fair_confirms (.updateStore id _ _))

theorem updateInventory_reads : Reads (updateInventory c) Statement.Fair := by
  refine reads_bind (id_reads c) fun id _ => ?_
  refine reads_bind (integer_reads c _) fun delta hdelta => ?_
  exact reads_ok (fair_confirms (.updateInventory id hdelta))

theorem updateCustomer_reads : Reads (updateCustomer c) Statement.Fair := by
  refine reads_bind (arg_reads c _) fun place _ => ?_
  refine reads_bind (aisleSpot_reads c place) fun spot _ => ?_
  refine reads_bind (id_reads c) fun id _ => ?_
  exact reads_ok (fair_confirms (.updateCustomer id _ _))

theorem assignBasket_reads : Reads (assignBasket c) Statement.Fair := by
  refine reads_bind (arg_reads c _) fun customer _ => ?_
  refine reads_bind (id_reads c) fun id _ => ?_
  exact reads_ok (fair_confirms (.assignCustomerBasket customer id))

theorem addBasketItem_reads : Reads (addBasketItem c) Statement.Fair := by
  refine reads_bind (arg_reads c _) fun product _ => ?_
  refine reads_bind (integer_reads c _) fun quantity hquantity => ?_
  refine reads_bind (id_reads c) fun id _ => ?_
  exact reads_ok (fair_confirms (.addBasketProduct id product hquantity))

theorem removeBasketItem_reads : Reads (removeBasketItem c) Statement.Fair := by
  refine reads_bind (arg_reads c _) fun product _ => ?_
  refine reads_bind (integer_reads c _) fun quantity hquantity => ?_
  refine reads_bind (id_reads c) fun id _ => ?_
  exact reads_ok (fair_confirms (.removeBasketProduct id product hquantity))

theorem createEvent_reads : Reads (createEvent c) Statement.Fair := by
  refine reads_bind (id_reads c) fun id _ => ?_
  refine reads_bind (arg_reads c _) fun event _ => ?_
  exact reads_ok (fair_confirms (.raiseEvent id event))

theorem createCommand_reads : Reads (createCommand c) Statement.Fair := by
  refine reads_bind (id_reads c) fun id _ => ?_
  refine reads_bind (arg_reads c _) fun command _ => ?_
  exact reads_ok (fair_confirms (.issueCommand id command))

/-- A rule that reads nothing but the id. -/
theorem reads_of_id {f : String → Statement} (h : ∀ id, (f id).Fair) :
    Reads (do return f (← c.id)) Statement.Fair :=
  reads_bind (id_reads c) fun id _ => reads_ok (h id)

end Forms

/-- Every rule reads a statement that can be made, or refuses the line. -/
theorem forms_read : ∀ rule ∈ forms, ∀ c, Reads (rule.2 c) Statement.Fair := by
  unfold forms
  simp only [List.forall_mem_cons, List.not_mem_nil, false_imp_iff, implies_true, and_true]
  exact ⟨defineStore_reads, defineAisle_reads, defineShelf_reads, defineProduct_reads,
    defineInventory_reads, defineCustomer_reads,
    fun c => reads_of_id c fun id => fair_confirms (.provisionBasket id), defineDevice_reads,
    fun c => reads_of_id c fun id => fair_shows (.showStore id) rfl, showAisle_reads,
    showShelf_reads, fun c => reads_of_id c fun id => fair_shows (.showProduct id) rfl,
    fun c => reads_of_id c fun id => fair_shows (.showInventory id) rfl,
    fun c => reads_of_id c fun id => fair_shows (.showCustomer id) rfl,
    fun c => reads_of_id c fun id => fair_shows (.showBasket id) rfl,
    fun c => reads_of_id c fun id => ⟨.showBasket id, fun _ => rfl⟩,
    fun c => reads_of_id c fun id => fair_shows (.showDevice id) rfl, updateStore_reads,
    updateInventory_reads, updateCustomer_reads,
    fun c => reads_of_id c fun id => fair_confirms (.deleteStore id), assignBasket_reads,
    fun c => reads_of_id c fun id => fair_shows (.getCustomerBasket id) rfl, addBasketItem_reads,
    removeBasketItem_reads, fun c => reads_of_id c fun id => fair_confirms (.clearBasket id),
    createEvent_reads, createCommand_reads⟩

/-! ## Lines -/

theorem addArgs_reads (line : String) (ws : List String) (args : Keyed String) :
    Reads (addArgs line args ws) fun _ => True := by
  fun_induction addArgs line args ws with
  | case1 args => exact reads_ok trivial
  | case2 args word rest keyword hfree => exact reads_ok trivial
  | case3 args word keyword hfree => exact reads_unreadable _ _ _
  | case4 args word keyword hfree value rest ih => exact ih

theorem takeName_reads (line : String) (ws : List String) :
    Reads (takeName line ws) fun _ => True := by
  unfold takeName
  split
  · exact reads_unreadable _ _ _
  · dsimp only
    split
    · split
      · exact reads_unreadable _ _ _
      · exact reads_ok trivial
    · exact reads_ok trivial

theorem words_reads (line : String) : Reads (words line) fun _ => True := by
  unfold words
  split
  · exact reads_ok trivial
  · exact reads_unreadable _ _ _

/-- A line asks for an operation with everything given, or it is refused as a line. -/
theorem read_reads (line : String) : Reads (Statement.read line) Statement.Fair := by
  have hcommand : Reads (Command.read line) fun _ => True := by
    refine reads_bind (words_reads line) fun ws _ => ?_
    refine reads_bind (takeName_reads line ws) fun named _ => ?_
    refine reads_bind (addArgs_reads line _ _) fun args _ => ?_
    exact reads_ok trivial
  refine reads_bind hcommand fun c _ => ?_
  unfold Statement.ofCommand
  split
  · rename_i form hform
    exact forms_read (c.name, form) (mem_forms hform) c
  · exact reads_unreadable _ _ _

end Script

end Shopfloor
