import Shopfloor.Proofs.Script.Call
/-!
# Compound Ids

What a compound id is made of.

A compound id is written with colons between its parts, and it is cut at every
colon. So the parts are told from what is written if none of them has a colon in
it, and there is only one way to make an id of such parts. No part may be empty;
that has nothing to do with cutting, but it is what the reader asks for.

The empty text is not made of no parts. It is made of one part, which is empty.

## Main definitions

* `Script.Composed`: A text that is made of parts.

## Theorems

* `Script.Composed.split`: A text is made of parts in one way.
* `Script.splitLocation_eq_ok_iff`: What the reader takes apart, and into which parts.
* `Script.composed_aisle`, `Script.composed_shelf`: How aisles and shelves are written.
-/

namespace Shopfloor

namespace Script

open Argument (IsPart)

variable {line : String}

/-- A text is made of parts: at least one, none of them empty or with a colon in it, joined by
    colons. -/
structure Composed (pieces : List String) (value : String) : Prop where
  nonempty : pieces ≠ []
  parts : ∀ p ∈ pieces, p ≠ "" ∧ ':' ∉ p.toList
  joined : (String.singleton ':').intercalate pieces = value

/-- A text has the parts that it is made of, and there is only one way to make it. -/
theorem Composed.split {pieces : List String} {value : String} (h : Composed pieces value) :
    Text.split ':' value = pieces := by
  rw [← h.joined]
  exact Text.split_intercalate h.nonempty fun p hp => (h.parts p hp).2

/-- What is made of parts is not empty. -/
theorem Composed.ne_empty {pieces : List String} {value : String} (h : Composed pieces value) :
    value ≠ "" := by
  intro hempty
  have hsplit : pieces = [""] := by
    rw [← h.split, hempty]
    rfl
  exact (h.parts "" (hsplit ▸ List.mem_singleton_self _)).1 rfl

/-- A compound id is taken apart exactly if it is made of as many parts as there should be, and
    these are the parts. -/
theorem splitLocation_eq_ok_iff {value : String} {parts : Int} {pieces : List String} :
    splitLocation value parts line = .ok pieces ↔
      Composed pieces value ∧ (pieces.length : Int) = parts := by
  unfold splitLocation
  dsimp only
  constructor
  · intro h
    split at h
    next hok =>
      cases h
      refine ⟨⟨?_, fun p hp => ⟨?_, Text.notMem_of_mem_split hp⟩, Text.intercalate_split ':' value⟩,
        hok.1⟩
      · exact fun hnil => Text.splitChars_ne_nil _ _ (List.map_eq_nil_iff.1 hnil)
      · rintro rfl
        cases List.all_eq_true.1 hok.2 "" hp
    next => cases h
  · rintro ⟨hpieces, hlength⟩
    have hnonempty : pieces.all (!·.isEmpty) = true := by
      refine List.all_eq_true.2 fun p hp => ?_
      simp only [(hpieces.parts p hp).1, Bool.not_eq_true', String.isEmpty_eq_false_iff, ne_eq,
        not_false_eq_true]
    rw [hpieces.split, if_pos ⟨hlength, hnonempty⟩]

/-- The text of an aisle is made of the ids, if they are parts. -/
theorem composed_aisle {spot : AisleSpot} (h : IsPart spot.store ∧ IsPart spot.aisle) :
    Composed [spot.store, spot.aisle] spot.text := by
  refine ⟨List.cons_ne_nil _ _, ?_, (aisleText_eq spot).symm⟩
  simp only [List.forall_mem_cons, List.not_mem_nil, false_imp_iff, implies_true, and_true]
  exact ⟨⟨h.1.1, h.1.2.1⟩, h.2.1, h.2.2.1⟩

theorem composed_shelf {spot : ShelfSpot}
    (h : IsPart spot.store ∧ IsPart spot.aisle ∧ IsPart spot.shelf) :
    Composed [spot.store, spot.aisle, spot.shelf] spot.text := by
  refine ⟨List.cons_ne_nil _ _, ?_, (shelfText_eq spot).symm⟩
  simp only [List.forall_mem_cons, List.not_mem_nil, false_imp_iff, implies_true, and_true]
  exact ⟨⟨h.1.1, h.1.2.1⟩, ⟨h.2.1.1, h.2.1.2.1⟩, h.2.2.1, h.2.2.2.1⟩

end Script

end Shopfloor
