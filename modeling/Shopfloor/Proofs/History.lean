import Shopfloor.Proofs.Reachable
/-!
# The History of a Run

The operations of a run that succeeded, in the order in which they did.

An operation that is refused leaves the shop as it was, so what a run has done is
what those of its operations did that succeeded. A `Deed` is one of them, together
with the shop in which it was asked for, because what an operation does may
depend on what it found: the message of a device tells where the device stood
at that moment, wherever it stands later.

`Trace` is a run seen this way: from one shop to another, one `Step` for each
deed. What may lie in between are steps that were taken and are no deeds, because
the line about them could not be written. Such a step changes counts and the units in
baskets, and most of what a history tells does not depend on those. Whatever is said
about the history of a run is proved by induction on its trace, and no induction
needs a case for refusals.

## Main definitions

* `Shop.Deed`: An operation that succeeded, and the shop in which it did.
* `Shop.history`, `Shop.done`: The deeds of a run, and the operations alone.
* `Shop.Trace`: One step after the other.

## Theorems

* `Sound.trace`: A run is a trace of its deeds.
* `Trace.sound`: A trace keeps a shop sound.
* `Trace.keeps`, `Sound.runAll_keeps`: What every step keeps, a trace and a run keep.
* `Trace.foldl`: What every step makes of something is folded over a trace.
* `Reachable.of_mem_history`: A deed of a run from a reachable shop was done in a reachable shop.
* `exists_call_of_mem_done`: What was done was asked for.
-/

namespace Shopfloor

namespace Shop

/-- An operation that succeeded, and the shop in which it was asked for. -/
structure Deed where
  before : Shop
  op : Operation

/-- The deeds of a run: its operations that succeeded, in order. -/
def history : Shop → List (Option String × Operation) → List Deed
  | _, [] => []
  | shop, (token, op) :: calls =>
    match run token op shop with
    | (.ok _, next) => ⟨shop, op⟩ :: history next calls
    | (.error _, next) => history next calls

/-- The operations of a run that succeeded. -/
def done (shop : Shop) (calls : List (Option String × Operation)) : List Operation :=
  (history shop calls).map Deed.op

/-- Steps that lead from one shop to another, one after the other, with the deeds that they are. A
    step that moved units and could not be written about is no deed. -/
inductive Trace : Shop → List Deed → Shop → Prop
  | nil (shop : Shop) : Trace shop [] shop
  | cons {shop next shop' : Shop} {op : Operation} {r : Reply} {deeds : List Deed}
    (h : Step shop op r next) (rest : Trace next deeds shop') :
    Trace shop (⟨shop, op⟩ :: deeds) shop'
  | unlogged {shop next shop' : Shop} {op : Operation} {r : Reply} {deeds : List Deed}
    (h : Step shop op r next) (hop : op.countsUnits = true) (rest : Trace next deeds shop') :
    Trace shop deeds shop'

variable {shop shop' : Shop}

/-- Numbers are written about operations that move units only. -/
theorem Unlogged.countsUnits {op : Operation} (h : Unlogged shop op shop') :
    op.countsUnits = true := by
  rcases h with ⟨r, -, n, hn, -⟩
  -- There is no number in any other line.
  cases op <;> first
    | rfl
    | cases hn

/-- A run is a trace of its deeds: what was refused has left nothing behind. -/
theorem Sound.trace (hsound : shop.Sound) (calls : List (Option String × Operation)) :
    Trace shop (history shop calls) (Shop.runAll shop calls) := by
  induction calls generalizing shop with
  | nil => exact .nil shop
  | cons call calls ih =>
      rcases call with ⟨token, op⟩
      rcases hrun : Shop.run token op shop with ⟨result, next⟩
      have hnext := ih (hrun ▸ hsound.run token op)
      unfold history Shop.runAll
      rw [List.foldl_cons, hrun]
      cases result with
      | ok r => exact .cons (run_ok hsound hrun) hnext
      | error e =>
          rcases run_error hsound hrun with hsame | ⟨-, hdone⟩
          · -- Nothing was done, so the trace of the rest starts where this one does.
            subst hsame
            exact hnext
          · exact .unlogged hdone.choose_spec.1 hdone.countsUnits hnext

theorem Trace.sound {deeds : List Deed} (h : Trace shop deeds shop') (hsound : shop.Sound) :
    shop'.Sound := by
  induction h with
  | nil _ => exact hsound
  | cons hstep _ ih => exact ih (hstep.sound hsound)
  | unlogged hstep _ _ ih => exact ih (hstep.sound hsound)

/-- What every step keeps, a trace keeps. -/
theorem Trace.keeps {P : Shop → Prop}
    (hstep : ∀ {shop shop' op r}, Step shop op r shop' → shop.Sound → P shop → P shop')
    {deeds : List Deed} (htrace : Trace shop deeds shop') (hsound : shop.Sound) (h : P shop) :
    P shop' := by
  induction htrace with
  | nil _ => exact h
  | cons hfirst _ ih => exact ih (hfirst.sound hsound) (hstep hfirst hsound h)
  | unlogged hfirst _ _ ih => exact ih (hfirst.sound hsound) (hstep hfirst hsound h)

/-- What every step keeps, a run keeps, whether its operations succeed or fail. -/
theorem Sound.runAll_keeps {P : Shop → Prop} (hsound : shop.Sound)
    (hstep : ∀ {shop shop' op r}, Step shop op r shop' → shop.Sound → P shop → P shop')
    (calls : List (Option String × Operation)) (h : P shop) : P (Shop.runAll shop calls) :=
  (hsound.trace calls).keeps hstep hsound h

/-- What every step makes of something that is read off the shop can be folded over the operations
    of a trace, if moving units makes nothing of it. -/
theorem Trace.foldl {α : Type} (look : Shop → α) {f : α → Operation → α}
    (hstep : ∀ {shop shop' op r}, Step shop op r shop' → shop.Sound →
      look shop' = f (look shop) op)
    (hunits : ∀ a op, op.countsUnits = true → f a op = a)
    {deeds : List Deed} (h : Trace shop deeds shop') (hsound : shop.Sound) :
    look shop' = (deeds.map Deed.op).foldl f (look shop) := by
  induction h with
  | nil _ => rfl
  | cons hfirst _ ih =>
      rw [ih (hfirst.sound hsound), hstep hfirst hsound, List.map_cons, List.foldl_cons]
  | unlogged hfirst hop _ ih =>
      rw [ih (hfirst.sound hsound), hstep hfirst hsound, hunits _ _ hop]

/-- What was done in a run from a reachable shop was done in a reachable shop. -/
theorem Reachable.of_mem_history (h : Reachable shop) {calls : List (Option String × Operation)}
    {d : Deed} (hd : d ∈ history shop calls) : Reachable d.before := by
  induction calls generalizing shop with
  | nil => cases hd
  | cons call calls ih =>
      rcases call with ⟨token, op⟩
      have hnext := Reachable.call token op h
      rcases hrun : Shop.run token op shop with ⟨result, next⟩
      unfold history at hd
      rw [hrun] at hd hnext
      cases result with
      | ok r =>
          rcases List.mem_cons.1 hd with rfl | hlater
          · exact h
          · exact ih hnext hlater
      | error e => exact ih hnext hd

/-- What was done in a run was asked for in it. -/
theorem exists_call_of_mem_done {calls : List (Option String × Operation)} {op : Operation}
    (hop : op ∈ done shop calls) : ∃ call ∈ calls, call.2 = op := by
  induction calls generalizing shop with
  | nil => cases hop
  | cons call calls ih =>
      rcases call with ⟨token, first⟩
      have hlater : ∀ {next}, op ∈ done next calls → ∃ call ∈ (token, first) :: calls, call.2 = op :=
        fun hin => (ih hin).imp fun _ h => ⟨List.mem_cons_of_mem _ h.1, h.2⟩
      unfold done history at hop
      split at hop
      · rcases List.mem_cons.1 hop with rfl | hin
        · exact ⟨_, List.mem_cons_self, rfl⟩
        · exact hlater hin
      · exact hlater hop

end Shop

end Shopfloor
