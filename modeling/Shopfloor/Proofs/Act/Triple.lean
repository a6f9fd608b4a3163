import Shopfloor.Shop
/-!
# What Acts Do

How to say what an act does to the shop, and how to prove it step by step.

`Meets` is the form in which every act of the shop is described. It speaks
about both ends at once: if the act succeeds, its result and the shop
afterwards stand in a given relation, and if it fails, the shop is exactly what
it was. An act is written as checks followed by changes, and `Meets` follows
that shape. `meets_bind_look` passes over a check and keeps what it found out, and
once the checks are behind, `meets_of_succeeds` asks that the changes go
through. A change that could still be refused would show up there as a goal
that cannot be proved.

`Succeeds` says that an act does come to an end without failing. It composes
without conditions, so the changes of an act are run by rewriting.

## Main definitions

* `Act.Meets`: The act succeeds in a given way or leaves the shop as it was.
* `Act.Succeeds`: The act succeeds in a given way.

## Theorems

* `runIn_bind`: One step after another.
* `meets_bind_look`: Passing over a step that only looks.
* `meets_of_succeeds`: An act that succeeds meets what it comes to.
* `succeeds_bind`, `succeeds_map`: Changes one after another, and a result in another form.
-/

namespace Shopfloor

namespace Act

variable {α β : Type} {shop : Shop}

@[simp]
theorem runIn_modify (f : Shop → Shop) :
    (modify f : Act PUnit).runIn shop = (.ok ⟨⟩, f shop) := rfl

theorem runIn_bind (x : Act α) (f : α → Act β) :
    (x >>= f).runIn shop = match x.runIn shop with
      | (.ok a, shop') => (f a).runIn shop'
      | (.error e, shop') => (.error e, shop') := by
  unfold runIn ExceptT.run
  simp only [bind, ExceptT.bind, ExceptT.mk, StateT.bind, ExceptT.bindCont]
  rcases x shop with ⟨r, shop'⟩
  cases r with
  | ok a => rfl
  | error e => rfl

theorem runIn_bind_pure (b : β) (f : β → Act α) :
    (pure b >>= f).runIn shop = (f b).runIn shop := rfl

theorem runIn_bind_ofExcept (x : Except Fault β) (f : β → Act α) :
    (ofExcept x >>= f).runIn shop = match x with
      | .ok b => (f b).runIn shop
      | .error e => (.error e, shop) := by
  cases x with
  | ok b => rfl
  | error e => rfl

theorem runIn_map (g : α → β) (x : Act α) :
    (g <$> x).runIn shop = match x.runIn shop with
      | (.ok a, shop') => (.ok (g a), shop')
      | (.error e, shop') => (.error e, shop') := by
  rw [map_eq_pure_bind, runIn_bind]
  rfl

/-- The act succeeds in a given way, or it fails and the shop is what it was. -/
structure Meets (act : Act α) (shop : Shop) (Q : α → Shop → Prop) : Prop where
  ok : ∀ a shop', act.runIn shop = (.ok a, shop') → Q a shop'
  error : ∀ e shop', act.runIn shop = (.error e, shop') → shop' = shop

/-- The act succeeds in a given way. -/
def Succeeds (act : Act α) (shop : Shop) (Q : α → Shop → Prop) : Prop :=
  ∃ a shop', act.runIn shop = (.ok a, shop') ∧ Q a shop'

section Meets

variable {Q : α → Shop → Prop}

theorem meets_pure {a : α} (h : Q a shop) : (pure a : Act α).Meets shop Q := by
  constructor
  · intro b shop' hr
    cases hr
    exact h
  · intro e shop' hr
    cases hr

theorem meets_throw (e : Fault) : (throw e : Act α).Meets shop Q := by
  constructor
  · intro a shop' hr
    cases hr
  · intro e' shop' hr
    cases hr
    rfl

theorem meets_fail (action : String) (c : Cause) : (fail action c : Act α).Meets shop Q :=
  meets_throw _

theorem meets_of_succeeds {act : Act α} (h : act.Succeeds shop Q) : act.Meets shop Q := by
  rcases h with ⟨a, shop₁, hrun, hQ⟩
  constructor
  · intro b shop' hr
    rw [hrun] at hr
    cases hr
    exact hQ
  · intro e shop' hr
    rw [hrun] at hr
    cases hr

theorem Meets.mono {R : α → Shop → Prop} {act : Act α} (h : act.Meets shop Q)
    (hQR : ∀ a shop', Q a shop' → R a shop') : act.Meets shop R :=
  ⟨fun a shop' hr => hQR a shop' (h.ok a shop' hr), h.error⟩

/-- A step that only looks can be passed over: the next one starts in the same shop and may use
    what was found. -/
theorem meets_bind_look {x : Act β} {f : β → Act α} {P : β → Prop}
    (hx : x.Meets shop fun b shop' => shop' = shop ∧ P b)
    (hf : ∀ b, P b → (f b).Meets shop Q) : (x >>= f).Meets shop Q := by
  rcases hr : x.runIn shop with ⟨r, shop₁⟩
  have hbind := @runIn_bind β α shop x f
  rw [hr] at hbind
  cases r with
  | ok b =>
      -- The look left the shop alone, so the next step starts in it.
      rcases hx.ok b shop₁ hr with ⟨rfl, hb⟩
      have hfb := hf b hb
      exact ⟨fun a shop' h => hfb.ok a shop' (hbind.symm.trans h),
        fun e shop' h => hfb.error e shop' (hbind.symm.trans h)⟩
  | error e =>
      -- The look failed, and with it the whole; it left the shop as it was.
      have hsame := hx.error e shop₁ hr
      constructor
      · intro a shop' h
        rw [hbind] at h
        cases h
      · intro e' shop' h
        rw [hbind] at h
        cases h
        exact hsame

theorem meets_bind_get {f : Shop → Act α} (hf : (f shop).Meets shop Q) :
    (get >>= f).Meets shop Q :=
  ⟨hf.ok, hf.error⟩

theorem meets_bind_pure {b : β} {f : β → Act α} (hf : (f b).Meets shop Q) :
    (pure b >>= f).Meets shop Q :=
  ⟨hf.ok, hf.error⟩

theorem meets_bind_throw (e : Fault) (f : β → Act α) : (throw e >>= f).Meets shop Q := by
  constructor
  · intro a shop' hr
    cases hr
  · intro e' shop' hr
    cases hr
    rfl

theorem meets_bind_fail (action : String) (c : Cause) (f : β → Act α) :
    (fail action c >>= f).Meets shop Q :=
  meets_bind_throw _ f

theorem meets_ofExcept {x : Except Fault α} (h : ∀ a, x = .ok a → Q a shop) :
    (ofExcept x).Meets shop Q := by
  cases x with
  | ok a => exact meets_pure (h a rfl)
  | error e => exact meets_throw e

theorem meets_bind_ofExcept {x : Except Fault β} {f : β → Act α}
    (hf : ∀ b, x = .ok b → (f b).Meets shop Q) : (ofExcept x >>= f).Meets shop Q := by
  cases x with
  | ok b => exact meets_bind_pure (hf b rfl)
  | error e => exact meets_bind_throw e f

theorem meets_map {R : β → Shop → Prop} {g : α → β} {act : Act α}
    (h : act.Meets shop fun a shop' => R (g a) shop') : (g <$> act).Meets shop R := by
  rcases hr : act.runIn shop with ⟨r, shop₁⟩
  have hmap := @runIn_map α β shop g act
  rw [hr] at hmap
  cases r with
  | ok a =>
      have hR := h.ok a shop₁ hr
      exact meets_of_succeeds ⟨g a, shop₁, hmap, hR⟩
  | error e =>
      have hsame := h.error e shop₁ hr
      constructor
      · intro b shop' hb
        rw [hmap] at hb
        cases hb
      · intro e' shop' he
        rw [hmap] at he
        cases he
        exact hsame

end Meets

section Succeeds

variable {Q : α → Shop → Prop}

theorem succeeds_pure {a : α} (h : Q a shop) : (pure a : Act α).Succeeds shop Q :=
  ⟨a, shop, rfl, h⟩

theorem succeeds_bind_modify {f : Shop → Shop} {g : PUnit → Act α}
    (h : (g ⟨⟩).Succeeds (f shop) Q) : (modify f >>= g).Succeeds shop Q := by
  rcases h with ⟨a, shop', hr, hQ⟩
  exact ⟨a, shop', hr, hQ⟩

theorem succeeds_bind_get {f : Shop → Act α} (h : (f shop).Succeeds shop Q) :
    (get >>= f).Succeeds shop Q := by
  rcases h with ⟨a, shop', hr, hQ⟩
  exact ⟨a, shop', hr, hQ⟩

theorem succeeds_bind_ofExcept {x : Except Fault β} {b : β} {f : β → Act α} (hx : x = .ok b)
    (h : (f b).Succeeds shop Q) : (ofExcept x >>= f).Succeeds shop Q := by
  subst hx
  rcases h with ⟨a, shop', hr, hQ⟩
  exact ⟨a, shop', hr, hQ⟩

/-- One change and an answer are never refused. -/
theorem meets_write {f : Shop → Shop} {a : α} (h : Q a (f shop)) :
    (modify f >>= fun _ => pure a : Act α).Meets shop Q :=
  meets_of_succeeds (succeeds_bind_modify (succeeds_pure h))

/-- An act that succeeds hands its result and the shop it leaves to the next one. -/
theorem succeeds_bind {x : Act β} {f : β → Act α}
    (h : x.Succeeds shop fun b shop' => (f b).Succeeds shop' Q) : (x >>= f).Succeeds shop Q := by
  rcases h with ⟨b, shop₁, hx, a, shop₂, hf, hQ⟩
  refine ⟨a, shop₂, ?_, hQ⟩
  rw [runIn_bind, hx]
  exact hf

/-- An act whose result is handed on in another form. -/
theorem succeeds_map {R : β → Shop → Prop} {g : α → β} {act : Act α}
    (h : act.Succeeds shop fun a shop' => R (g a) shop') : (g <$> act).Succeeds shop R := by
  rcases h with ⟨a, shop', hr, hR⟩
  refine ⟨g a, shop', ?_, hR⟩
  rw [runIn_map, hr]

end Succeeds

end Act

end Shopfloor
