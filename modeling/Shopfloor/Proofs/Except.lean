/-!
# Steps that May Fail

What comes of one step after another when each of them may fail.

A reader hands on what it has read, and the next one goes on with it. So what
two of them hand on in the end says what both have done, and this is how such
steps are taken apart: whoever knows the end gets all that came before it, and
if the last step never comes to this end, neither do all of them together.

## Theorems

* `bind_eq_ok_iff`: What two steps hand on.
* `bind_ne_ok`: What they do not.
-/

namespace Shopfloor

variable {ε α β : Type}

/-- A step that has come to something goes on with it. -/
@[simp]
theorem ok_bind (a : α) (f : α → Except ε β) : (Except.ok a >>= f) = f a := rfl

/-- What two steps hand on one after the other, each of them has handed on. -/
theorem bind_eq_ok_iff {x : Except ε α} {f : α → Except ε β} {b : β} :
    (x >>= f) = .ok b ↔ ∃ a, x = .ok a ∧ f a = .ok b := by
  constructor
  · intro h
    cases x with
    | ok a => exact ⟨a, rfl, h⟩
    | error e => cases h
  · rintro ⟨a, rfl, h⟩
    rw [ok_bind, h]

/-- What the second step never hands on, both together do not. -/
theorem bind_ne_ok {x : Except ε α} {f : α → Except ε β} {b : β} (h : ∀ a, f a ≠ .ok b) :
    (x >>= f) ≠ .ok b := by
  intro hbind
  rcases bind_eq_ok_iff.1 hbind with ⟨a, -, ha⟩
  exact h a ha

end Shopfloor
