import Shopfloor.Script.Command
/-!
# Rows of Words

How a row of words can be written on a line so that it is read back.

A word may stand on a line in double quotes, and if it is not empty and has no
gaps in it, it may stand there bare. That is `Writes`, and a line is a `Row` of
words if it is such words with gaps between them. The reader knows three modes,
so the proof is about one word in each of them: between words, one begins; in a
quote, the reader goes on to the quote that closes it; bare, it goes on to the
gap. Behind a word the reader is bare in every case, and there a gap or the end
of the line tells that the word is over, which is what the hypothesis about the
rest of the line says.

A word with a double quote in it cannot be written: nothing on a line is
escaped.

## Main definitions

* `Script.Writes`: A word as it may stand on a line.
* `Script.Row`: A line with certain words on it.
* `Script.quote`: A text in double quotes.

## Theorems

* `Writes.wordsFrom_between`: One word is read.
* `Row.wordsFrom_between`, `Row.words_eq_ok`: A row of words is read.
* `words_intercalate`: Words joined by single spaces are read.
-/

namespace Shopfloor

namespace Script

/-- A word as it may stand on a line: in double quotes, or bare if it can do without. -/
inductive Writes : List Char → List Char → Prop
  | quoted {w : List Char} (h : '"' ∉ w) : Writes ('"' :: (w ++ ['"'])) w
  | bare {w : List Char} (hne : w ≠ []) (h : ∀ c ∈ w, isGap c = false ∧ c ≠ '"') : Writes w w

/-- A line with certain words on it and gaps between them. -/
inductive Row : List Char → List (List Char) → Prop
  | empty : Row [] []
  | last {l w : List Char} (h : Writes l w) : Row l [w]
  | more {l w gap line : List Char} {ws : List (List Char)} (h : Writes l w) (hne : gap ≠ [])
    (hgap : ∀ c ∈ gap, isGap c = true) (hrow : Row line ws) : Row (l ++ (gap ++ line)) (w :: ws)

/-- A gap between words is passed over. -/
theorem wordsFrom_between_gap {gap : List Char} (hgap : ∀ c ∈ gap, isGap c = true)
    (rest : List Char) : wordsFrom .between (gap ++ rest) = wordsFrom .between rest := by
  induction gap with
  | nil => rfl
  | cons c gap ih =>
      have hnext := ih fun x hx => hgap x (List.mem_cons_of_mem _ hx)
      rw [List.cons_append, wordsFrom, if_pos (hgap c List.mem_cons_self), hnext]

/-- A gap behind a word ends the word. -/
theorem wordsFrom_bare_gap {gap : List Char} (hne : gap ≠ []) (hgap : ∀ c ∈ gap, isGap c = true)
    (rest : List Char) :
    wordsFrom .bare (gap ++ rest) = (wordsFrom .between rest).map ([] :: ·) := by
  cases gap with
  | nil => exact absurd rfl hne
  | cons c gap =>
      have hrest := wordsFrom_between_gap (fun x hx => hgap x (List.mem_cons_of_mem _ hx)) rest
      rw [List.cons_append, wordsFrom, if_pos (hgap c List.mem_cons_self), hrest]

/-- The rest of a bare word, with what comes behind it. -/
theorem wordsFrom_bare_append {w rest v : List Char} {ws : List (List Char)}
    (h : ∀ c ∈ w, isGap c = false ∧ c ≠ '"') (hrest : wordsFrom .bare rest = some (v :: ws)) :
    wordsFrom .bare (w ++ rest) = some ((w ++ v) :: ws) := by
  induction w with
  | nil => exact hrest
  | cons c w ih =>
      rcases h c List.mem_cons_self with ⟨hgap, hquote⟩
      have hnext := ih fun x hx => h x (List.mem_cons_of_mem _ hx)
      rw [List.cons_append, wordsFrom, hgap, if_neg nofun, if_neg hquote, hnext]
      rfl

/-- The rest of a quote up to its end, with what comes behind it. -/
theorem wordsFrom_quoted_append {w rest v : List Char} {ws : List (List Char)} (h : '"' ∉ w)
    (hrest : wordsFrom .bare rest = some (v :: ws)) :
    wordsFrom .quoted (w ++ '"' :: rest) = some ((w ++ v) :: ws) := by
  induction w with
  | nil =>
      rw [List.nil_append, wordsFrom, if_pos rfl]
      exact hrest
  | cons c w ih =>
      rw [List.mem_cons, not_or] at h
      rw [List.cons_append, wordsFrom, if_neg (Ne.symm h.1), ih h.2]
      rfl

/-- A word is read if it is over where the rest of the line begins. -/
theorem Writes.wordsFrom_between {l w rest : List Char} {ws : List (List Char)} (h : Writes l w)
    (hrest : wordsFrom .bare rest = some ([] :: ws)) :
    wordsFrom .between (l ++ rest) = some (w :: ws) := by
  cases h with
  | quoted h =>
      have hquoted := wordsFrom_quoted_append h hrest
      rw [List.append_nil] at hquoted
      rw [List.cons_append, List.append_assoc, List.singleton_append]
      exact hquoted
  | bare hne h =>
      cases l with
      | nil => exact absurd rfl hne
      | cons c l =>
          -- The first character begins the word, the others go on with it.
          rcases h c List.mem_cons_self with ⟨hgap, hquote⟩
          have hnext := wordsFrom_bare_append (fun x hx => h x (List.mem_cons_of_mem _ hx)) hrest
          rw [List.append_nil] at hnext
          rw [List.cons_append, wordsFrom, hgap, if_neg nofun, if_neg hquote, hnext]
          rfl

/-- A row of words is read. -/
theorem Row.wordsFrom_between {line : List Char} {ws : List (List Char)} (h : Row line ws) :
    wordsFrom .between line = some ws := by
  induction h with
  | empty => rfl
  | @last l w h =>
      have hend : wordsFrom .bare [] = some [[]] := rfl
      have hword := h.wordsFrom_between hend
      rwa [List.append_nil] at hword
  | @more l w gap line ws h hne hgap _ ih =>
      refine h.wordsFrom_between ?_
      rw [wordsFrom_bare_gap hne hgap, ih, Option.map_some]

/-- A line has the words that a reader finds who begins between words. -/
theorem words_eq_ok {line : String} {ws : List (List Char)}
    (h : wordsFrom .between line.toList = some ws) : words line = .ok (ws.map String.ofList) := by
  unfold words words?
  rw [h]
  rfl

/-- A row of words is a line that has these words. -/
theorem Row.words_eq_ok {line : String} {ws : List String}
    (h : Row line.toList (ws.map String.toList)) : words line = .ok ws := by
  rw [Script.words_eq_ok h.wordsFrom_between, List.map_map]
  exact congrArg Except.ok (List.map_id'' (fun w => String.ofList_toList) ws)

/-- Words joined by single spaces are a row. -/
theorem row_intercalate {pieces : List (String × String)}
    (h : ∀ e ∈ pieces, Writes e.1.toList e.2.toList) :
    Row ([' '].intercalate (pieces.map fun e => e.1.toList)) (pieces.map fun e => e.2.toList) := by
  induction pieces with
  | nil => exact .empty
  | cons e pieces ih =>
      have he := h e List.mem_cons_self
      cases pieces with
      | nil =>
          rw [List.map_singleton, List.map_singleton, List.intercalate_singleton]
          exact .last he
      | cons e' pieces =>
          have hrow := ih fun x hx => h x (List.mem_cons_of_mem _ hx)
          rw [List.map_cons, List.map_cons, List.map_cons, List.intercalate_cons_cons,
            List.append_assoc]
          refine .more he (List.cons_ne_nil _ _) (fun c hc => ?_) hrow
          rw [List.mem_singleton.1 hc]
          rfl

/-- A text in double quotes. -/
def quote (s : String) : String := "\"" ++ s ++ "\""

theorem writes_quote {s : String} (h : '"' ∉ s.toList) : Writes (quote s).toList s.toList := by
  have hchars : (quote s).toList = '"' :: (s.toList ++ ['"']) := by
    unfold quote
    rw [String.toList_append, String.toList_append]
    rfl
  rw [hchars]
  exact .quoted h

/-- Words that are written on a line, joined by single spaces, are the words of the line. -/
theorem words_intercalate {pieces : List (String × String)}
    (h : ∀ e ∈ pieces, Writes e.1.toList e.2.toList) :
    words (" ".intercalate (pieces.map Prod.fst)) = .ok (pieces.map Prod.snd) := by
  refine Row.words_eq_ok ?_
  rw [String.toList_intercalate, List.map_map, List.map_map]
  exact row_intercalate h

end Script

end Shopfloor
