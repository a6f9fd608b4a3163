import Shopfloor.Text.Case
import Shopfloor.Text.Split
/-!
# Plain Texts

Texts that pass through the readers unchanged.

Joining texts by a separator is undone by splitting, as long as no piece holds
the separator, and splitting is always undone by joining. A text is its own
small form if it is made of small letters from `'a'` to `'z'` and of
underscores. All names and keywords of commands are of this kind, so the rules
for other scripts never come into play where a command is written in the
letters of its form. And no character but the space has a small form with a
space in it, so small forms of words do not fall apart.

## Main definitions

* `isPlain`: Small letters and the underscore.

## Theorems

* `split_append`, `split_intercalate`: The pieces of joined pieces.
* `intercalate_split`: The pieces of a text, joined.
* `notMem_of_mem_split`, `mem_of_mem_split`: What pieces hold.
* `notMem_intercalate`: What joined pieces do not hold.
* `cutFirst_eq_some_iff`: The two sides of the first separator.
* `lower_of_isPlain`: The small form of a plain text.
* `space_notMem_lower`: A small form without spaces.
-/

namespace Shopfloor

namespace Text

/-- Characters without the separator are one piece. -/
theorem splitChars_of_notMem {sep : Char} {cs : List Char} (h : sep ∉ cs) :
    splitChars sep cs = [cs] := by
  induction cs with
  | nil => rfl
  | cons c cs ih =>
      rw [List.mem_cons, not_or] at h
      rw [splitChars, if_neg (Ne.symm h.1), ih h.2]

/-- The characters before the first separator are the first piece. -/
theorem splitChars_append {sep : Char} {cs : List Char} (h : sep ∉ cs) (rest : List Char) :
    splitChars sep (cs ++ sep :: rest) = cs :: splitChars sep rest := by
  induction cs with
  | nil =>
      rw [List.nil_append, splitChars, if_pos rfl]
  | cons c cs ih =>
      rw [List.mem_cons, not_or] at h
      rw [List.cons_append, splitChars, if_neg (Ne.symm h.1), ih h.2]

/-- There is no text without a piece. -/
theorem splitChars_ne_nil (sep : Char) (cs : List Char) : splitChars sep cs ≠ [] := by
  cases cs with
  | nil => exact List.cons_ne_nil _ _
  | cons c cs =>
      rw [splitChars]
      split
      · exact List.cons_ne_nil _ _
      · split <;> exact List.cons_ne_nil _ _

/-- No piece has the separator in it. -/
theorem notMem_of_mem_splitChars {sep : Char} {cs piece : List Char}
    (h : piece ∈ splitChars sep cs) : sep ∉ piece := by
  induction cs generalizing piece with
  | nil =>
      rw [splitChars, List.mem_singleton] at h
      rw [h]
      exact List.not_mem_nil
  | cons c cs ih =>
      rw [splitChars] at h
      split at h
      next hc =>
        rcases List.mem_cons.1 h with rfl | h
        · exact List.not_mem_nil
        · exact ih h
      next hc =>
        rcases List.exists_cons_of_ne_nil (splitChars_ne_nil sep cs) with ⟨first, rest, hcs⟩
        rw [hcs] at h ih
        rcases List.mem_cons.1 h with rfl | h
        · -- The character joins the first piece of the rest.
          rw [List.mem_cons, not_or]
          exact ⟨Ne.symm hc, ih List.mem_cons_self⟩
        · exact ih (List.mem_cons_of_mem _ h)

/-- The pieces of joined pieces are these pieces, if none of them holds the separator. -/
theorem splitChars_intercalate {sep : Char} {pieces : List (List Char)} (hne : pieces ≠ [])
    (h : ∀ cs ∈ pieces, sep ∉ cs) : splitChars sep ([sep].intercalate pieces) = pieces := by
  induction pieces with
  | nil => exact absurd rfl hne
  | cons cs pieces ih =>
      have hcs := h cs List.mem_cons_self
      cases pieces with
      | nil =>
          rw [List.intercalate_singleton]
          exact splitChars_of_notMem hcs
      | cons next pieces =>
          have hrest := ih (List.cons_ne_nil _ _) fun x hx => h x (List.mem_cons_of_mem _ hx)
          rw [List.intercalate_cons_cons, List.append_assoc, List.singleton_append,
            splitChars_append hcs, hrest]

/-- Joining the pieces gives the characters back. -/
theorem intercalate_splitChars (sep : Char) (cs : List Char) :
    [sep].intercalate (splitChars sep cs) = cs := by
  induction cs with
  | nil => rfl
  | cons c cs ih =>
      rcases List.exists_cons_of_ne_nil (splitChars_ne_nil sep cs) with ⟨piece, pieces, hcs⟩
      rw [hcs] at ih
      rw [splitChars, hcs]
      by_cases hc : c = sep
      · rw [if_pos hc, List.intercalate_cons_cons, ih, hc]
        rfl
      · rw [if_neg hc]
        -- The character stands in front of the first piece, whether it is the last one or not.
        cases pieces with
        | nil =>
            rw [List.intercalate_singleton] at ih ⊢
            rw [ih]
        | cons next pieces =>
            rw [List.intercalate_cons_cons] at ih ⊢
            dsimp only [List.cons_append]
            rw [ih]

/-- A text without the separator is one piece. -/
theorem split_of_notMem {sep : Char} {s : String} (h : sep ∉ s.toList) : split sep s = [s] := by
  unfold split
  rw [splitChars_of_notMem h, List.map_singleton, String.ofList_toList]

theorem notMem_of_mem_split {sep : Char} {s piece : String} (h : piece ∈ split sep s) :
    sep ∉ piece.toList := by
  rcases List.mem_map.1 h with ⟨cs, hcs, rfl⟩
  rw [String.toList_ofList]
  exact notMem_of_mem_splitChars hcs

/-- Joining the pieces of a text gives the text back. -/
theorem intercalate_split (sep : Char) (s : String) :
    (String.singleton sep).intercalate (split sep s) = s := by
  have hpieces : (split sep s).map String.toList = splitChars sep s.toList := by
    unfold split
    rw [List.map_map]
    exact List.map_id'' (fun cs => String.toList_ofList) _
  rw [← String.toList_inj, String.toList_intercalate, hpieces, String.toList_singleton,
    intercalate_splitChars]

/-- What stands before a separator is the first piece, if there is no other in it. -/
theorem split_append {sep : Char} {s : String} (h : sep ∉ s.toList) (t : String) :
    split sep (s ++ (String.singleton sep ++ t)) = s :: split sep t := by
  unfold split
  rw [String.toList_append, String.toList_append, String.toList_singleton, List.singleton_append,
    splitChars_append h, List.map_cons, String.ofList_toList]

/-- Joined texts are cut where they were joined, if no other separator is in them. -/
theorem split_intercalate {sep : Char} {pieces : List String} (hne : pieces ≠ [])
    (h : ∀ s ∈ pieces, sep ∉ s.toList) :
    split sep ((String.singleton sep).intercalate pieces) = pieces := by
  have hchars : ∀ cs ∈ pieces.map String.toList, sep ∉ cs := by
    intro cs hcs
    rcases List.mem_map.1 hcs with ⟨s, hs, rfl⟩
    exact h s hs
  unfold split
  rw [String.toList_intercalate, String.toList_singleton, splitChars_intercalate _ hchars]
  · rw [List.map_map]
    exact List.map_id'' (fun s => String.ofList_toList) pieces
  · exact fun hnil => hne (List.map_eq_nil_iff.1 hnil)

/-- Joined texts hold a character only if one of them does, the separator apart. -/
theorem notMem_intercalate {c sep : Char} {pieces : List String} (hsep : c ≠ sep)
    (h : ∀ s ∈ pieces, c ∉ s.toList) :
    c ∉ ((String.singleton sep).intercalate pieces).toList := by
  rw [String.toList_intercalate, String.toList_singleton]
  induction pieces with
  | nil => exact List.not_mem_nil
  | cons s pieces ih =>
      have hs := h s List.mem_cons_self
      cases pieces with
      | nil =>
          rw [List.map_singleton, List.intercalate_singleton]
          exact hs
      | cons next pieces =>
          have hrest := ih fun x hx => h x (List.mem_cons_of_mem _ hx)
          rw [List.map_cons, List.map_cons, List.intercalate_cons_cons, List.mem_append,
            List.mem_append, List.mem_singleton, not_or, not_or]
          exact ⟨⟨hs, hsep⟩, hrest⟩

/-- Joined texts hold what any of them holds. -/
theorem mem_intercalate {c sep : Char} {pieces : List String} {s : String} (hs : s ∈ pieces)
    (hc : c ∈ s.toList) : c ∈ ((String.singleton sep).intercalate pieces).toList := by
  rw [String.toList_intercalate]
  induction pieces with
  | nil => cases hs
  | cons first pieces ih =>
      cases pieces with
      | nil =>
          rw [List.mem_singleton.1 hs] at hc
          rw [List.map_singleton, List.intercalate_singleton]
          exact hc
      | cons next pieces =>
          rw [List.map_cons, List.map_cons, List.intercalate_cons_cons]
          rcases List.mem_cons.1 hs with rfl | hs
          · exact List.mem_append_left _ (List.mem_append_left _ hc)
          · exact List.mem_append_right _ (ih hs)

/-- A piece has no character that the text does not have. -/
theorem mem_of_mem_split {sep c : Char} {s piece : String} (h : piece ∈ split sep s)
    (hc : c ∈ piece.toList) : c ∈ s.toList := by
  have hjoined : c ∈ ((String.singleton sep).intercalate (split sep s)).toList :=
    mem_intercalate h hc
  rwa [intercalate_split] at hjoined

theorem cutFirst_cons (sep c : Char) (cs : List Char) :
    cutFirst sep (c :: cs) =
      if c = sep then some ([], cs)
      else (cutFirst sep cs).map fun sides => (c :: sides.1, sides.2) := by
  unfold cutFirst
  rw [List.dropWhile_cons, List.takeWhile_cons]
  by_cases hc : c = sep
  · rw [if_pos hc, hc, bne_self_eq_false, if_neg Bool.false_ne_true, if_neg Bool.false_ne_true]
  · rw [if_neg hc, bne_iff_ne.2 hc, if_pos rfl, if_pos rfl]
    cases cs.dropWhile (· != sep) <;> rfl

/-- What stands before a separator is cut off, if there is no other in it. -/
theorem cutFirst_append {sep : Char} {before : List Char} (h : sep ∉ before) (after : List Char) :
    cutFirst sep (before ++ sep :: after) = some (before, after) := by
  induction before with
  | nil => rw [List.nil_append, cutFirst_cons, if_pos rfl]
  | cons c before ih =>
      rw [List.mem_cons, not_or] at h
      rw [List.cons_append, cutFirst_cons, if_neg (Ne.symm h.1), ih h.2, Option.map_some]

/-- A text is cut at the first separator, and nothing is lost but this one. -/
theorem cutFirst_eq_some_iff {sep : Char} {cs before after : List Char} :
    cutFirst sep cs = some (before, after) ↔ cs = before ++ sep :: after ∧ sep ∉ before := by
  constructor
  · intro h
    induction cs generalizing before with
    | nil => cases h
    | cons c cs ih =>
        rw [cutFirst_cons] at h
        split at h
        next hc =>
          cases h
          rw [hc]
          exact ⟨rfl, List.not_mem_nil⟩
        next hc =>
          rcases Option.map_eq_some_iff.1 h with ⟨⟨rest, after'⟩, hrest, hsides⟩
          cases hsides
          rcases ih hrest with ⟨rfl, hnot⟩
          refine ⟨rfl, ?_⟩
          rw [List.mem_cons, not_or]
          exact ⟨Ne.symm hc, hnot⟩
  · rintro ⟨rfl, hnot⟩
    exact cutFirst_append hnot after

/-- Small letters and the underscore. -/
def isPlain (c : Char) : Bool := c.isLower || c = '_'

theorem range_of_isPlain {c : Char} (h : isPlain c = true) : 95 ≤ c.toNat ∧ c.toNat ≤ 122 := by
  unfold isPlain Char.isLower at h
  rw [Bool.or_eq_true, decide_eq_true_eq] at h
  rcases h with h | rfl
  · rw [Bool.and_eq_true, decide_eq_true_eq, decide_eq_true_eq] at h
    exact ⟨Nat.le_trans (by decide) h.1, h.2⟩
  · exact ⟨by decide, by decide⟩

theorem lowerChar_of_isPlain {c : Char} (h : isPlain c = true) : lowerChar c = [c] := by
  rcases range_of_isPlain h with ⟨hlow, hhigh⟩
  have hascii : c.toNat < 128 := by omega
  have hcapital : ¬ (c.val ≥ 'A'.val ∧ c.val ≤ 'Z'.val) := fun hc => by
    have hz : c.toNat ≤ 90 := hc.2
    omega
  unfold lowerChar Char.toLower
  rw [if_pos hascii, dif_neg hcapital]

/-- A plain text is its own small form. -/
theorem lower_of_isPlain {s : String} (h : s.toList.all isPlain = true) : lower s = s := by
  have hfrom : ∀ (cs before : List Char), cs.all isPlain = true → lowerFrom before cs = cs := by
    intro cs
    induction cs with
    | nil => exact fun _ _ => rfl
    | cons c cs ih =>
        intro before hcs
        rw [List.all_cons, Bool.and_eq_true] at hcs
        have hsigma : ¬ c.toNat = 0x3A3 := by
          have hrange := range_of_isPlain hcs.1
          omega
        unfold lowerFrom
        dsimp only
        rw [if_neg hsigma, lowerChar_of_isPlain hcs.1, ih _ hcs.2, List.singleton_append]
  unfold lower
  rw [hfrom _ _ h, String.ofList_toList]

/-! ## Small forms and spaces -/

theorem eq_space_of_toLower {c : Char} (h : c.toLower = ' ') : c = ' ' := by
  unfold Char.toLower at h
  split at h
  next hcapital =>
    have hsum : (c.val + ('a'.val - 'A'.val)).toNat = 32 := congrArg Char.toNat h
    have hshift : ('a'.val - 'A'.val).toNat = 32 := rfl
    have hlow : 65 ≤ c.val.toNat := hcapital.1
    have hhigh : c.val.toNat ≤ 90 := hcapital.2
    rw [UInt32.toNat_add] at hsum
    omega
  next => exact h

/-- No row of the table leads to a space. -/
theorem lowerRows_above : ∀ r ∈ lowerRows, (32 : Int) < r.first + r.shift := by
  decide +kernel

theorem ofNat_ne_space {n : Nat} (h : 32 < n) : Char.ofNat n ≠ ' ' := by
  intro hspace
  have hnat : (Char.ofNat n).toNat = 32 := congrArg Char.toNat hspace
  unfold Char.ofNat at hnat
  by_cases hvalid : n.isValidChar
  · rw [dif_pos hvalid] at hnat
    exact absurd hnat (Nat.ne_of_gt h)
  · rw [dif_neg hvalid] at hnat
    cases hnat

theorem mapByRows_ne_space {c : Char} (h : c ≠ ' ') : mapByRows lowerRows c ≠ ' ' := by
  unfold mapByRows
  split
  next r hr =>
    have habove := lowerRows_above r (List.mem_of_find?_eq_some hr)
    have hcovers := List.find?_some hr
    unfold CaseRow.covers at hcovers
    rw [Bool.and_eq_true, Bool.and_eq_true, decide_eq_true_eq] at hcovers
    have hfirst : r.first ≤ c.toNat := hcovers.1.1
    exact ofNat_ne_space (by omega)
  next => exact h

/-- Only the space has a small form with a space in it. -/
theorem space_notMem_lowerChar {c : Char} (h : c ≠ ' ') : ' ' ∉ lowerChar c := by
  unfold lowerChar
  split
  · rw [List.mem_singleton]
    exact fun hspace => h (eq_space_of_toLower hspace.symm)
  · split
    · decide
    · rw [List.mem_singleton]
      exact fun hspace => mapByRows_ne_space h hspace.symm

/-- A text without spaces has a small form without spaces. -/
theorem space_notMem_lower {s : String} (h : ' ' ∉ s.toList) : ' ' ∉ (lower s).toList := by
  have hfrom : ∀ (cs before : List Char), ' ' ∉ cs → ' ' ∉ lowerFrom before cs := by
    intro cs
    induction cs with
    | nil => exact fun _ _ => List.not_mem_nil
    | cons c cs ih =>
        intro before hcs
        rw [List.mem_cons, not_or] at hcs
        unfold lowerFrom
        dsimp only
        rw [List.mem_append, not_or]
        refine ⟨?_, ih _ hcs.2⟩
        -- A capital sigma has one of two small forms, depending on what is around it.
        split
        · split <;> decide
        · exact space_notMem_lowerChar (Ne.symm hcs.1)
  unfold lower
  rw [String.toList_ofList]
  exact hfrom _ _ h

end Text

end Shopfloor
