import Shopfloor.Text.Lines
/-!
# Lines as They Are Written

Lines that hold no newline of their own are written with one newline
convention and come out of the cut as they went in, whichever convention it
is.

The end of a text is where this needs care. The last line may be closed by a
newline or left open, and an empty line that is left open cannot be seen: the
text is the same without it.

## Main definitions

* `Text.Newline`: The newline conventions.
* `Text.IsLine`: What may be written on one line.
* `Text.Writes`: The texts that lines are written as.

## Theorems

* `Text.writes_closed`, `Text.writes_joined`: Lines closed by newlines, and lines joined by them.
* `Text.Writes.splitLines`: The lines of a text that was written.
-/

namespace Shopfloor

namespace Text

/-- The newline conventions. -/
inductive Newline
  | lineFeed
  | returnAndFeed
  | carriageReturn
deriving DecidableEq, Repr

/-- The characters of a newline. -/
def Newline.chars : Newline → List Char
  | .lineFeed => ['\n']
  | .returnAndFeed => ['\r', '\n']
  | .carriageReturn => ['\r']

/-- What may be written on one line, whatever the convention. -/
def IsLine (cs : List Char) : Prop := '\n' ∉ cs ∧ '\r' ∉ cs

/-- The texts that lines are written as: a newline follows every line, or every line but the
    last. -/
inductive Writes (nl : Newline) : List (List Char) → List Char → Prop
  | nothing : Writes nl [] []
  | openLine (line : List Char) : Writes nl [line] line
  | line (line : List Char) {lines : List (List Char)} {text : List Char} :
      Writes nl lines text → Writes nl (line :: lines) (line ++ nl.chars ++ text)

variable {nl : Newline} {lines : List (List Char)} {text : List Char}

/-- Lines may be written with a newline behind each of them. -/
theorem writes_closed (nl : Newline) (lines : List (List Char)) :
    Writes nl lines (lines.flatMap (· ++ nl.chars)) := by
  induction lines with
  | nil => exact .nothing
  | cons line lines ih => exact .line line ih

/-- Lines may be written with a newline between any two of them. -/
theorem writes_joined (nl : Newline) (lines : List (List Char)) :
    Writes nl lines (nl.chars.intercalate lines) := by
  induction lines with
  | nil => exact .nothing
  | cons line lines ih =>
      cases lines with
      | nil =>
          rw [List.intercalate_singleton]
          exact .openLine line
      | cons next lines =>
          rw [List.intercalate_cons_cons]
          exact .line line ih

/-- A text written with carriage returns holds no line feed. -/
theorem Writes.notMem_lineFeed (h : Writes .carriageReturn lines text)
    (hlines : ∀ line ∈ lines, IsLine line) : '\n' ∉ text := by
  induction h with
  | nothing => exact List.not_mem_nil
  | openLine line => exact (hlines line List.mem_cons_self).1
  | line line _ ih =>
      have hline := (hlines line List.mem_cons_self).1
      have hrest := ih fun l hl => hlines l (List.mem_cons_of_mem _ hl)
      rw [List.mem_append, List.mem_append, not_or, not_or]
      exact ⟨⟨hline, by decide⟩, hrest⟩

/-- What stands on a line is added to the line that is being read. -/
theorem linesFrom_append {cs : List Char} (h : IsLine cs) (line rest : List Char) :
    linesFrom line (cs ++ rest) = linesFrom (cs.reverse ++ line) rest := by
  induction cs generalizing line with
  | nil => rfl
  | cons c cs ih =>
      rcases h with ⟨hfeed, hreturn⟩
      rw [List.mem_cons, not_or] at hfeed hreturn
      have hc : ¬ (decide (c = '\n') || decide (c = '\r')) = true := by
        rw [Bool.or_eq_true, decide_eq_true_eq, decide_eq_true_eq]
        exact fun hor => hor.elim (Ne.symm hfeed.1) (Ne.symm hreturn.1)
      have hne : ∀ tail, c = '\r' → cs ++ rest = '\n' :: tail → False :=
        fun _ hcr _ => Ne.symm hreturn.1 hcr
      rw [List.cons_append, linesFrom, if_neg hc, ih ⟨hfeed.2, hreturn.2⟩, List.reverse_cons,
        List.append_assoc, List.singleton_append]
      exact hne

/-- A newline closes the line that is being read. -/
theorem linesFrom_newline (line : List Char) {rest : List Char}
    (h : nl = .carriageReturn → '\n' ∉ rest) :
    linesFrom line (nl.chars ++ rest) = line.reverse :: linesFrom [] rest := by
  cases nl with
  | lineFeed =>
      change linesFrom line ('\n' :: rest) = _
      rw [linesFrom, if_pos (by decide)]
      exact nofun
  | returnAndFeed => rfl
  | carriageReturn =>
      -- A line feed behind the carriage return would belong to it.
      have hrest : ∀ tail, '\r' = '\r' → rest = '\n' :: tail → False := by
        rintro tail - rfl
        exact h rfl List.mem_cons_self
      change linesFrom line ('\r' :: rest) = _
      rw [linesFrom, if_pos (by decide)]
      exact hrest

/-- A text that lines were written as is cut into these lines, but for an empty line at its very
    end. -/
theorem Writes.splitLines (h : Writes nl lines text) (hlines : ∀ line ∈ lines, IsLine line) :
    splitLines text = lines ∨ splitLines text ++ [[]] = lines := by
  induction h with
  | nothing => exact .inl rfl
  | openLine line =>
      have hcut := linesFrom_append (hlines line List.mem_cons_self) [] []
      rw [List.append_nil, List.append_nil] at hcut
      unfold Text.splitLines
      rw [hcut]
      cases line with
      | nil => exact .inr rfl
      | cons c cs =>
          rw [linesFrom, if_neg (by simp), List.reverse_reverse]
          exact .inl rfl
  | @line line lines text hrest ih =>
      have hlines' := fun l hl => hlines l (List.mem_cons_of_mem _ hl)
      have hcut : Text.splitLines (line ++ nl.chars ++ text) = line :: Text.splitLines text := by
        unfold Text.splitLines
        rw [List.append_assoc, linesFrom_append (hlines line List.mem_cons_self), List.append_nil,
          linesFrom_newline, List.reverse_reverse]
        rintro rfl
        exact hrest.notMem_lineFeed hlines'
      rw [hcut]
      rcases ih hlines' with hsame | hopen
      · exact .inl (congrArg (line :: ·) hsame)
      · exact .inr (congrArg (line :: ·) hopen)

end Text

end Shopfloor
