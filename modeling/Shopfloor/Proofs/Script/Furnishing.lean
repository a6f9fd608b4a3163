import Mathlib.Data.Set.Finite.Basic
import Shopfloor.Proofs.Act.Completion
import Shopfloor.Proofs.Script.Naming
/-!
# Stores That Can Be Furnished

Which stores get aisles and shelves from lines.

A store opens under any word, but an aisle is put into it under a compound id,
and a compound id is cut at every colon. So if the id of a store has a colon in
it, no line has a word for any place in that store, although calls do. Such a
store opens, is shown and closes, and stays bare. Every other store can be
furnished, whatever has been done before: some number is not taken yet, the line
that gives it to a new aisle goes through, and a shelf can follow.

## Main definitions

* `Script.Call.line`: The line of a call.
* `Script.Provides`: A line registers something at a place that was free.
* `Script.newAisle`, `Script.newShelf`: The calls that furnish a store.

## Theorems

* `Script.provides_of_step`: A call that can be said and that can take its step.
* `Script.exists_fresh`: There is always another part for a compound id.
* `Script.Scripted.bare_of_colon`: Nothing stands in a store with a colon in its id.
* `Script.furnished_without_colon`: The stores that lines can furnish.
* `Script.bare_store`: A store that they cannot.
-/

namespace Shopfloor

namespace Script

open Argument (IsName IsPart)

variable {shop shop' : Shop} {token : Option String} {place : Place}

/-- The line of a call, with its keywords in their usual order. -/
def Call.line (call : Call) : String := (call.sentence (said call.fields)).line

/-- A line is answered, and afterwards something is registered at a place where nothing was. -/
structure Provides (token : Option String) (line : String) (place : Place) (shop shop' : Shop) :
    Prop where
  answered : ∃ text, (runLine token line).runIn shop = (.ok text, shop')
  free : shop.provisioned? place = none
  there : (shop'.provisioned? place).isSome = true

/-- The line of a call that can be said provides what the call registers, if the call can take its
    step. -/
theorem provides_of_step (hsound : shop.Sound) (htoken : Shop.isToken token = true) {call : Call}
    (hw : call.Writable) {record : Provisioned} {r : Reply}
    (hput : Registers call.operation place record)
    (hstep : Shop.Step shop call.operation r shop') :
    Provides token call.line place shop shop' := by
  rcases hstep.registers hsound hput with ⟨hfree, hafter⟩
  have hrun : (Shop.perform token call.operation).runIn shop = (.ok r, shop') :=
    (Shop.run_eq_ok_iff_step hsound hput.countsUnits).2 ⟨htoken, hstep⟩
  refine ⟨⟨confirmation call.operation r, ?_⟩, hfree, ?_⟩
  · unfold Call.line
    rw [runLine_sentence token hw, Act.runIn_map, hrun]
  · rw [hafter, if_pos rfl, Option.isSome_some]

/-! ## Stores without a colon -/

/-- A new aisle with nothing said of it but its name. -/
def newAisle (k n : String) : Call := .provisionAisle ⟨k, n⟩ "Aisle" none none

/-- A new shelf at the bottom of an aisle. -/
def newShelf (k n i : String) : Call := .provisionShelf ⟨k, n, i⟩ "Shelf" "low" none "ambient"

theorem newAisle_writable {k n : String} (hk : IsPart k) (hn : IsPart n) :
    (newAisle k n).Writable := by
  have hspot : IsPart k ∧ IsPart n := ⟨hk, hn⟩
  refine ⟨hspot, (composed_aisle hspot).ne_empty, ?_, nofun⟩
  simp [newAisle, Call.fields, Argument.Writable]

theorem newShelf_writable {k n i : String} (hk : IsPart k) (hn : IsPart n) (hi : IsPart i) :
    (newShelf k n i).Writable := by
  have hspot : IsPart k ∧ IsPart n ∧ IsPart i := ⟨hk, hn, hi⟩
  refine ⟨hspot, (composed_shelf hspot).ne_empty, ?_, nofun⟩
  simp [newShelf, Call.fields, Argument.Writable]

/-- Different parts for compound ids, as many as there are numbers. -/
def tally (m : Nat) : String := String.ofList (List.replicate (m + 1) 'x')

theorem tally_injective : Function.Injective tally := by
  intro m m' h
  have hlength := congrArg (fun s => s.toList.length) h
  simp only [tally, String.toList_ofList, List.length_replicate, Nat.add_right_cancel_iff] at hlength
  exact hlength

theorem tally_isPart (m : Nat) : IsPart (tally m) := by
  have hchars : (tally m).toList = List.replicate (m + 1) 'x' := String.toList_ofList
  refine ⟨fun hempty => ?_, ?_, ?_⟩
  · rw [hempty] at hchars
    cases hchars
  · rw [hchars, List.mem_replicate]
    exact fun h => absurd h.2 (by decide)
  · rw [hchars, List.mem_replicate]
    exact fun h => absurd h.2 (by decide)

/-- There is always another part for a compound id. -/
theorem exists_fresh {α : Type} (m : Keyed α) : ∃ n, IsPart n ∧ m.get? n = none := by
  rcases (Set.infinite_range_of_injective tally_injective).exists_notMem_finset m.keys.toFinset with
    ⟨n, ⟨i, rfl⟩, hn⟩
  refine ⟨tally i, tally_isPart i, ?_⟩
  rw [Keyed.get?_eq_none_iff]
  exact fun hmem => hn (List.mem_toFinset.2 hmem)

/-- A line opens an aisle with a number that is free. -/
theorem provides_aisle (hsound : shop.Sound) (htoken : Shop.isToken token = true) {k n : String}
    {s : Store} (hs : shop.stores.get? k = some s) (hfree : s.aisles.get? n = none)
    (hk : IsPart k) (hn : IsPart n) :
    Provides token (newAisle k n).line (.fitting k (.aisle n)) shop
      (shop.putStore { s with aisles := s.aisles.insert n ⟨n, "Aisle", "", none, .empty⟩ }) := by
  have hplace : Option.map Choice.read? none = Option.map some (none : Option AisleLocation) := rfl
  exact provides_of_step hsound htoken (newAisle_writable hk hn) (.aisle k n "Aisle" none hplace)
    (.openAisle none none hs hfree hplace rfl)

/-- A line puts a shelf up with an id that is free in its aisle. -/
theorem provides_shelf (hsound : shop.Sound) (htoken : Shop.isToken token = true)
    {k n i : String} {s : Store} {a : Aisle} (hs : shop.stores.get? k = some s)
    (ha : s.aisles.get? n = some a) (hfree : a.shelves.get? i = none) (hk : IsPart k)
    (hn : IsPart n) (hi : IsPart i) :
    ∃ shop', Provides token (newShelf k n i).line (.fitting k (.shelf n i)) shop shop' := by
  have hheight : Choice.read? (shown (some "low")) = some ShelfLevel.low := by decide +kernel
  have hwarmth : Choice.read? (shown (some "ambient")) = some Temperature.ambient := by
    decide +kernel
  exact ⟨_, provides_of_step hsound htoken (newShelf_writable hk hn hi)
    (.shelf k n i "Shelf" none hheight hwarmth)
    (.putUpShelf (some "low") none (some "ambient") hs ha hfree hheight hwarmth rfl)⟩

/-- A store without a colon in its id can get an aisle, and the aisle can get a shelf. -/
theorem Scripted.furnishes (h : Scripted shop) {k : String} {s : Store}
    (hs : shop.stores.get? k = some s) (hk : ':' ∉ k.toList)
    (htoken : Shop.isToken token = true) :
    ∃ n line shop', Provides token line (.fitting k (.aisle n)) shop shop' ∧
      ∃ i line' shop'', Provides token line' (.fitting k (.shelf n i)) shop' shop'' := by
  have hsound := h.reachable.sound
  have hrecord : shop.provisioned? (.fitting k .itself) = some (.store s.id) :=
    Shop.provisioned?_fitting hs _
  have hname : IsName k := h.spoken hrecord
  have hpart : IsPart k := ⟨hname.1, hk, hname.2⟩
  rcases exists_fresh s.aisles with ⟨n, hn, hfree⟩
  have haisle := provides_aisle hsound htoken hs hfree hpart hn
  refine ⟨n, _, _, haisle, ?_⟩
  -- The line leaves a sound shop, so the next one can be told in the same way.
  have hnext := h.line token (newAisle k n).line
  rcases haisle.answered with ⟨text, hrun⟩
  rw [hrun] at hnext
  have hs' : (shop.putStore { s with
      aisles := s.aisles.insert n ⟨n, "Aisle", "", none, .empty⟩ }).stores.get? k =
      some { s with aisles := s.aisles.insert n ⟨n, "Aisle", "", none, .empty⟩ } := by
    unfold Shop.putStore
    dsimp only
    rw [(hsound.store_self hs).1, Keyed.get?_insert_self]
  rcases provides_shelf hnext.reachable.sound htoken hs' (Keyed.get?_insert_self _ _ _)
    (Keyed.get?_empty (tally 0)) hpart hn (tally_isPart 0) with ⟨shop'', hshelf⟩
  exact ⟨tally 0, _, shop'', hshelf⟩

/-- Nothing stands in a store with a colon in its id. -/
theorem Scripted.bare_of_colon (h : Scripted shop) {k : String} (hk : ':' ∈ k.toList)
    {f : Fitting} (hf : f ≠ .itself) : shop.provisioned? (.fitting k f) = none := by
  cases hrecord : shop.provisioned? (.fitting k f) with
  | none => rfl
  | some record =>
      exfalso
      have hspoken := h.spoken hrecord
      cases f with
      | itself => exact hf rfl
      | aisle _ | shelf _ _ | inventory _ | device _ => exact hspoken.1.2.1 hk

/-- No line provides anything in a store with a colon in its id. -/
theorem Scripted.not_provides_of_colon (h : Scripted shop) {k : String} (hk : ':' ∈ k.toList)
    {f : Fitting} (hf : f ≠ .itself) (line : String) :
    ¬ Provides token line (.fitting k f) shop shop' := by
  rintro ⟨⟨text, hrun⟩, -, hthere⟩
  have hnext := h.line token line
  rw [hrun] at hnext
  rw [hnext.bare_of_colon hk hf, Option.isSome_none] at hthere
  cases hthere

/-- In a shop that lines have led to, a store without a colon in its id can get a new aisle from a
    line, and then this aisle a shelf from another, with any token. In a store with a colon in its id
    no line provides anything. -/
theorem furnished_without_colon (h : Scripted shop) {k : String} {s : Store}
    (hs : shop.stores.get? k = some s) :
    (':' ∉ k.toList → ∀ token, Shop.isToken token = true →
      ∃ n line shop', Provides token line (.fitting k (.aisle n)) shop shop' ∧
        ∃ i line' shop'', Provides token line' (.fitting k (.shelf n i)) shop' shop'') ∧
    (':' ∈ k.toList → ∀ token line f shop', f ≠ .itself →
      ¬ Provides token line (.fitting k f) shop shop') :=
  ⟨fun hk _ htoken => h.furnishes hs hk htoken,
    fun hk _ line _ _ hf => h.not_provides_of_colon hk hf line⟩

/-- Two stores open, one of them with a colon in its id. -/
def openings : List Call :=
  [.provisionStore "s" "Store" "1 Gate Road", .provisionStore "a:b" "Store" "2 Gate Road"]

/-- The shop after these calls. -/
def opened : Shop := Shop.runAll .empty (openings.map fun call => (some "key", call.operation))

theorem scripted_opened : Scripted opened := by
  refine Scripted.empty.calls (some "key") fun call hcall => ?_
  unfold openings at hcall
  simp only [List.mem_cons, List.not_mem_nil, or_false] at hcall
  rcases hcall with rfl | rfl <;>
    refine ⟨?_, by decide, ?_, nofun⟩ <;>
    simp [Call.target, Call.fields, Argument.Writable]

theorem stores_opened :
    (opened.stores.get? "s").isSome = true ∧ (opened.stores.get? "a:b").isSome = true := by
  decide +kernel

/-- One of these stores can be furnished, and the other one cannot. -/
theorem furnished_after_openings :
    (∃ n line shop', Provides (some "key") line (.fitting "s" (.aisle n)) opened shop') ∧
      ∀ line n shop', ¬ Provides (some "key") line (.fitting "a:b" (.aisle n)) opened shop' := by
  rcases Option.isSome_iff_exists.1 stores_opened.1 with ⟨s, hs⟩
  rcases Option.isSome_iff_exists.1 stores_opened.2 with ⟨s', hs'⟩
  constructor
  · rcases (furnished_without_colon scripted_opened hs).1 (by decide) (some "key") (by decide) with
      ⟨n, line, shop', h, -⟩
    exact ⟨n, line, shop', h⟩
  · exact fun line n shop' =>
      (furnished_without_colon scripted_opened hs').2 (by decide) (some "key") line (.aisle n) shop'
        nofun

/-- So not every store that lines have opened can get an aisle from a line. -/
theorem bare_store :
    ¬ ∀ shop, Scripted shop → ∀ k s, shop.stores.get? k = some s →
      ∀ token, Shop.isToken token = true →
        ∃ n line shop', Provides token line (.fitting k (.aisle n)) shop shop' := by
  intro hall
  rcases Option.isSome_iff_exists.1 stores_opened.2 with ⟨s, hs⟩
  rcases hall opened scripted_opened "a:b" s hs (some "key") (by decide) with ⟨n, line, shop', h⟩
  have hcolon : ':' ∈ "a:b".toList := by decide
  have haisle : Fitting.aisle n ≠ .itself := nofun
  exact scripted_opened.not_provides_of_colon hcolon haisle line h

end Script

end Shopfloor
