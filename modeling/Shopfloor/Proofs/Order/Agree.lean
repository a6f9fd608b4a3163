import Shopfloor.Proofs.Act.Triple
import Shopfloor.Proofs.Order.Change
/-!
# Acts in Alike Shops

How to prove that an act comes to the same end in two shops that differ in order.

`Agree` speaks about two runs at once, each of its own act in its own shop. They
fail with the same fault, or both succeed, and then results and shops stand in a
given relation. The two acts are mostly the same program, written twice with
records that differ in order, and so the rules take both apart at the same
places. Two relations are enough to go on with. After a look both shops are what
they were (`Seen`), and after a change they are alike (`Done`).

An act that fails leaves some shop behind. That it is the shop it began with is
not used here; the rules only keep the two shops alike.

## Main definitions

* `Act.SameEnd`: The same fault, or related results.
* `Act.Agree`: Two acts fail alike or succeed in a given way.
* `Act.Seen`, `Act.Done`: What holds after a look, and after a change.
* `Act.OnlyChecks`: An act that does not look at the shop.

## Theorems

* `agree_bind`: One step after another.
* `agree_bind_look`: Passing over a step that only looks.
* `agree_bind_check`: Passing over a step that does not even look.
* `agree_write`: A change and an answer.
-/

namespace Shopfloor

namespace Act

variable {α β γ δ : Type} {shop shop' : Shop}

/-- The same fault, or results that stand in a relation. -/
inductive SameEnd (R : α → β → Prop) : Except Fault α → Except Fault β → Prop
  | ok {a : α} {b : β} (h : R a b) : SameEnd R (.ok a) (.ok b)
  | error (e : Fault) : SameEnd R (.error e) (.error e)

theorem sameEnd_refl (x : Except Fault α) : SameEnd (· = ·) x x := by
  cases x with
  | ok a => exact .ok rfl
  | error e => exact .error e

theorem SameEnd.mono {R S : α → β → Prop} {x : Except Fault α} {y : Except Fault β}
    (h : SameEnd R x y) (hRS : ∀ a b, R a b → S a b) : SameEnd S x y := by
  cases h with
  | ok h => exact .ok (hRS _ _ h)
  | error e => exact .error e

/-- Two ends of runs: the same fault in alike shops, or two successes in a given relation. -/
inductive AlikeEnd (Q : α → Shop → β → Shop → Prop) :
    Except Fault α × Shop → Except Fault β × Shop → Prop
  | ok {a : α} {b : β} {s s' : Shop} (h : Q a s b s') : AlikeEnd Q (.ok a, s) (.ok b, s')
  | error (e : Fault) {s s' : Shop} (h : s.Alike s') : AlikeEnd Q (.error e, s) (.error e, s')

/-- Two acts, each in its shop, fail alike or succeed in a given way. -/
def Agree (act : Act α) (shop : Shop) (act' : Act β) (shop' : Shop)
    (Q : α → Shop → β → Shop → Prop) : Prop :=
  AlikeEnd Q (act.runIn shop) (act'.runIn shop')

/-- Both shops are what they were, and what was found in them stands in a relation. -/
def Seen (R : α → β → Prop) (shop shop' : Shop) (a : α) (s : Shop) (b : β) (s' : Shop) : Prop :=
  s = shop ∧ s' = shop' ∧ R a b

/-- The results stand in a relation, and the shops are alike. -/
def Done (R : α → β → Prop) (a : α) (s : Shop) (b : β) (s' : Shop) : Prop :=
  R a b ∧ s.Alike s'

/-- An act that does not look at the shop. -/
def OnlyChecks (act : Act α) : Prop := ∃ x, act = ofExcept x

theorem onlyChecks_pure (a : α) : (pure a : Act α).OnlyChecks := ⟨.ok a, rfl⟩

theorem onlyChecks_fail (action : String) (c : Cause) : (fail action c : Act α).OnlyChecks :=
  ⟨.error (c.fault action), rfl⟩

theorem onlyChecks_ofExcept (x : Except Fault α) : (ofExcept x).OnlyChecks := ⟨x, rfl⟩

theorem onlyChecks_unless (c : Prop) [Decidable c] (action : String) (cause : Cause) (a : α) :
    (if c then fail action cause else pure a : Act α).OnlyChecks := by
  split
  · exact onlyChecks_fail action cause
  · exact onlyChecks_pure a

section Rules

variable {Q : α → Shop → β → Shop → Prop}

theorem agree_pure {a : α} {b : β} (h : Q a shop b shop') :
    (pure a : Act α).Agree shop (pure b) shop' Q :=
  .ok h

theorem agree_throw (h : shop.Alike shop') (e : Fault) :
    (throw e : Act α).Agree shop (throw e) shop' Q :=
  .error e h

theorem agree_fail (h : shop.Alike shop') (action : String) (c : Cause) :
    (fail action c : Act α).Agree shop (fail action c) shop' Q :=
  agree_throw h _

theorem agree_ofExcept (h : shop.Alike shop') {R : α → β → Prop} {x : Except Fault α}
    {y : Except Fault β} (hxy : SameEnd R x y) :
    (ofExcept x).Agree shop (ofExcept y) shop' (Seen R shop shop') := by
  cases hxy with
  | ok hab => exact .ok ⟨rfl, rfl, hab⟩
  | error e => exact .error e h

/-- What is looked up under one id is found in both shops or in none. -/
theorem agree_found (h : shop.Alike shop') {R : α → β → Prop} {x : Option α} {y : Option β}
    (hxy : Option.Rel R x y) (action : String) (noun : Noun) (id : Option String) :
    (found action noun id x).Agree shop (found action noun id y) shop' (Seen R shop shop') := by
  cases hxy with
  | none => exact agree_fail h _ _
  | some hab => exact agree_pure ⟨rfl, rfl, hab⟩

theorem Agree.mono {P : α → Shop → β → Shop → Prop} {act : Act α} {act' : Act β}
    (h : act.Agree shop act' shop' P) (hPQ : ∀ a s b s', P a s b s' → Q a s b s') :
    act.Agree shop act' shop' Q := by
  unfold Agree at h ⊢
  generalize act.runIn shop = end₁ at h ⊢
  generalize act'.runIn shop' = end₂ at h ⊢
  cases h with
  | ok h => exact .ok (hPQ _ _ _ _ h)
  | error e h => exact .error e h

/-- What was looked up is what the act ends with. -/
theorem Agree.done (h : shop.Alike shop') {R : α → β → Prop} {act : Act α} {act' : Act β}
    (hact : act.Agree shop act' shop' (Seen R shop shop')) :
    act.Agree shop act' shop' (Done R) := by
  refine hact.mono ?_
  rintro a s b s' ⟨rfl, rfl, hab⟩
  exact ⟨hab, h⟩

/-- One step after another, in both shops. -/
theorem agree_bind {P : γ → Shop → δ → Shop → Prop} {x : Act γ} {x' : Act δ} {f : γ → Act α}
    {f' : δ → Act β} (hx : x.Agree shop x' shop' P)
    (hf : ∀ a s b s', P a s b s' → (f a).Agree s (f' b) s' Q) :
    (x >>= f).Agree shop (x' >>= f') shop' Q := by
  unfold Agree at hx ⊢
  rw [runIn_bind, runIn_bind]
  generalize x.runIn shop = end₁ at hx ⊢
  generalize x'.runIn shop' = end₂ at hx ⊢
  cases hx with
  | ok h => exact hf _ _ _ _ h
  | error e h => exact .error e h

/-- A step that only looks can be passed over in both shops. -/
theorem agree_bind_look {R : γ → δ → Prop} {x : Act γ} {x' : Act δ} {f : γ → Act α}
    {f' : δ → Act β} (hx : x.Agree shop x' shop' (Seen R shop shop'))
    (hf : ∀ a b, R a b → (f a).Agree shop (f' b) shop' Q) :
    (x >>= f).Agree shop (x' >>= f') shop' Q := by
  refine agree_bind hx ?_
  rintro a s b s' ⟨rfl, rfl, hab⟩
  exact hf a b hab

theorem agree_bind_ofExcept (h : shop.Alike shop') {R : γ → δ → Prop} {x : Except Fault γ}
    {y : Except Fault δ} {f : γ → Act α} {f' : δ → Act β} (hxy : SameEnd R x y)
    (hf : ∀ a b, R a b → (f a).Agree shop (f' b) shop' Q) :
    (ofExcept x >>= f).Agree shop (ofExcept y >>= f') shop' Q :=
  agree_bind_look (agree_ofExcept h hxy) hf

/-- A step that does not look at the shop is the same step in both. -/
theorem agree_bind_check (h : shop.Alike shop') {x : Act γ} {f : γ → Act α} {f' : γ → Act β}
    (hx : x.OnlyChecks) (hf : ∀ a, (f a).Agree shop (f' a) shop' Q) :
    (x >>= f).Agree shop (x >>= f') shop' Q := by
  rcases hx with ⟨x, rfl⟩
  refine agree_bind_ofExcept h (sameEnd_refl x) ?_
  rintro a b rfl
  exact hf a

theorem agree_bind_throw (h : shop.Alike shop') (e : Fault) (f : γ → Act α) (f' : δ → Act β) :
    (throw e >>= f).Agree shop (throw e >>= f') shop' Q :=
  .error e h

theorem agree_bind_fail (h : shop.Alike shop') (action : String) (c : Cause) (f : γ → Act α)
    (f' : δ → Act β) : (fail action c >>= f).Agree shop (fail action c >>= f') shop' Q :=
  agree_bind_throw h _ f f'

theorem agree_bind_pure {a : γ} {b : δ} {f : γ → Act α} {f' : δ → Act β}
    (hf : (f a).Agree shop (f' b) shop' Q) :
    (pure a >>= f).Agree shop (pure b >>= f') shop' Q :=
  hf

theorem agree_bind_get {f : Shop → Act α} {f' : Shop → Act β}
    (hf : (f shop).Agree shop (f' shop') shop' Q) :
    (get >>= f).Agree shop (get >>= f') shop' Q :=
  hf

theorem agree_bind_modify {g g' : Shop → Shop} {f : PUnit → Act α} {f' : PUnit → Act β}
    (hf : (f ⟨⟩).Agree (g shop) (f' ⟨⟩) (g' shop') Q) :
    (modify g >>= f).Agree shop (modify g' >>= f') shop' Q :=
  hf

/-- A refusal of an id that is taken; past it, the acts go on. -/
theorem agree_unless_taken (h : shop.Alike shop') {R : γ → δ → Prop} {x : Option γ} {y : Option δ}
    (hxy : Option.Rel R x y) {action : String} {c : Cause} {rest : Unit → Act α}
    {rest' : Unit → Act β} (hrest : (rest ()).Agree shop (rest' ()) shop' Q) :
    (if x.isSome = true then fail action c >>= rest else rest ()).Agree shop
      (if y.isSome = true then fail action c >>= rest' else rest' ()) shop' Q := by
  cases hxy with
  | none => exact hrest
  | some _ => exact agree_bind_fail h action c rest rest'

theorem agree_map {P : γ → Shop → δ → Shop → Prop} {x : Act γ} {x' : Act δ} {g : γ → α}
    {g' : δ → β} (hx : x.Agree shop x' shop' P)
    (hg : ∀ a s b s', P a s b s' → Q (g a) s (g' b) s') :
    (g <$> x).Agree shop (g' <$> x') shop' Q := by
  rw [map_eq_pure_bind, map_eq_pure_bind]
  exact agree_bind hx fun a s b s' h => agree_pure (hg a s b s' h)

/-- One change and an answer. -/
theorem agree_write {R : α → β → Prop} {g g' : Shop → Shop} {a : α} {b : β} (hab : R a b)
    (h : (g shop).Alike (g' shop')) :
    (modify g >>= fun _ => pure a : Act α).Agree shop (modify g' >>= fun _ => pure b) shop'
      (Done R) :=
  agree_bind_modify (agree_pure ⟨hab, h⟩)

end Rules

end Act

end Shopfloor
