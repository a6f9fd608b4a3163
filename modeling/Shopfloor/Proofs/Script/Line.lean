import Mathlib.Data.List.Forall2
import Shopfloor.Proofs.Script.Word
/-!
# Lines and Their Words

Which lines have words, which characters the words are made of, and how lines are
put together.

A reader is in one of three modes, and a character does one of three things to it:
a double quote turns the mode, a gap outside of quotes ends the word, and any other
character goes into the word. `reading_induction` is the induction over a line that
has these cases, whatever the mode. Everything here is proved by it, for all modes
at once, and then read off for a reader who begins between words.

What the words of a line are made of is said without words: `keptFrom` goes through
the line once and knows only whether a quote is open. So it cannot lose a character
that the words have, nor move it.

Two lines with a gap between them are read one after the other. For that the first
of them has to leave no quote open, and this is why a line is not read in parts
wherever there is a gap in it.

## Main definitions

* `Script.Mode.turned`, `Script.Mode.begun`, `Script.Mode.ended`: What a character does to a mode.
* `Script.quotes`: The double quotes of a line.
* `Script.kept`: A line without quotes and without the gaps outside of them.
* `Script.Spells`, `Script.interleave`: Texts on a line, with gaps between them.

## Theorems

* `wordsFrom_quote`, `wordsFrom_gap`, `wordsFrom_char`: The three things a character can do.
* `reading_induction`: Induction over a line by what each character does.
* `wordsFrom_eq_none_iff`: Lines that have words.
* `flatten_wordsFrom`: The characters of the words.
* `wordsFrom_append_gap`: Two lines with a gap between them.
* `words_of_lines`: All of this for the words of a line.
* `words_interleave`: Texts that are written on a line are read back.
-/

namespace Shopfloor

namespace Script

namespace Mode

/-- The mode behind a double quote. -/
def turned : Mode → Mode
  | .quoted => .bare
  | _ => .quoted

/-- The mode behind a character that goes into a word. -/
def begun : Mode → Mode
  | .quoted => .quoted
  | _ => .bare

/-- Whether a quote is open. -/
def isOpen : Mode → Bool
  | .quoted => true
  | _ => false

/-- What is left of the word that has begun, if one has, where the word ends. -/
def ended : Mode → List (List Char)
  | .between => []
  | _ => [[]]

theorem isOpen_turned (m : Mode) : m.turned.isOpen = !m.isOpen := by
  cases m <;> rfl

theorem isOpen_begun (m : Mode) : m.begun.isOpen = m.isOpen := by
  cases m <;> rfl

theorem turned_ne_between (m : Mode) : m.turned ≠ .between := by
  cases m <;> nofun

theorem begun_ne_between (m : Mode) : m.begun ≠ .between := by
  cases m <;> nofun

end Mode

variable {m : Mode} {c : Char} {cs : List Char}

theorem ne_quote_of_isGap (hc : isGap c = true) : c ≠ '"' := by
  rintro rfl
  cases hc

/-- A double quote turns the mode. -/
theorem wordsFrom_quote (m : Mode) (cs : List Char) :
    wordsFrom m ('"' :: cs) = wordsFrom m.turned cs := by
  cases m <;> rfl

/-- A gap outside of quotes ends the word. -/
theorem wordsFrom_gap (hm : m.isOpen = false) (hc : isGap c = true) (cs : List Char) :
    wordsFrom m (c :: cs) = (wordsFrom .between cs).map (m.ended ++ ·) := by
  cases m with
  | between =>
      rw [wordsFrom, if_pos hc]
      exact Option.map_id'.symm
  | bare =>
      rw [wordsFrom, if_pos hc]
      rfl
  | quoted => cases hm

/-- Any other character goes into the word. -/
theorem wordsFrom_char (hquote : c ≠ '"') (hc : m.isOpen = true ∨ isGap c = false)
    (cs : List Char) : wordsFrom m (c :: cs) = (wordsFrom m.begun cs).map (pushFront c) := by
  cases m with
  | between =>
      have hgap := hc.resolve_left Bool.false_ne_true
      rw [wordsFrom, hgap, if_neg Bool.false_ne_true, if_neg hquote]
      rfl
  | bare =>
      have hgap := hc.resolve_left Bool.false_ne_true
      rw [wordsFrom, hgap, if_neg Bool.false_ne_true, if_neg hquote]
      rfl
  | quoted =>
      rw [wordsFrom, if_neg hquote]
      rfl

/-- Induction over a line by what each character does to the mode. -/
theorem reading_induction {P : Mode → List Char → Prop} (nil : ∀ m, P m [])
    (quote : ∀ m cs, P m.turned cs → P m ('"' :: cs))
    (gap : ∀ m c cs, m.isOpen = false → isGap c = true → P .between cs → P m (c :: cs))
    (char : ∀ m c cs, c ≠ '"' → m.isOpen = true ∨ isGap c = false → P m.begun cs → P m (c :: cs))
    (m : Mode) (cs : List Char) : P m cs := by
  induction cs generalizing m with
  | nil => exact nil m
  | cons c cs ih =>
      by_cases hquote : c = '"'
      · rw [hquote]
        exact quote m cs (ih m.turned)
      · cases hm : m.isOpen with
        | true => exact char m c cs hquote (Or.inl hm) (ih m.begun)
        | false =>
            cases hgap : isGap c with
            | true => exact gap m c cs hm hgap (ih .between)
            | false => exact char m c cs hquote (Or.inr hgap) (ih m.begun)

/-- A line has no words exactly if it leaves a quote open. -/
theorem wordsFrom_eq_none_iff (m : Mode) (cs : List Char) :
    wordsFrom m cs = none ↔ (cs.count '"' + m.isOpen.toNat) % 2 = 1 := by
  induction m, cs using reading_induction with
  | nil m => cases m <;> simp [wordsFrom, Mode.isOpen]
  | quote m cs ih =>
      rw [wordsFrom_quote, ih, List.count_cons_self, Mode.isOpen_turned]
      cases m.isOpen
      · rfl
      · simp only [Bool.not_true, Bool.toNat_false, Bool.toNat_true]
        omega
  | gap m c cs hm hc ih =>
      rw [wordsFrom_gap hm hc, Option.map_eq_none_iff, ih,
        List.count_cons_of_ne (ne_quote_of_isGap hc), hm]
      rfl
  | char m c cs hquote hc ih =>
      rw [wordsFrom_char hquote hc, Option.map_eq_none_iff, ih, List.count_cons_of_ne hquote,
        Mode.isOpen_begun]

/-- What is left of a line without its quotes and without the gaps outside of them, where a quote
    may be open already. -/
def keptFrom : Bool → List Char → List Char
  | _, [] => []
  | isOpen, c :: cs =>
    if c = '"' then keptFrom (!isOpen) cs
    else if !isOpen && isGap c then keptFrom isOpen cs
    else c :: keptFrom isOpen cs

theorem flatten_pushFront (c : Char) (ws : List (List Char)) :
    (pushFront c ws).flatten = c :: ws.flatten := by
  cases ws with
  | nil => rfl
  | cons w ws => rfl

/-- The words have every character that is kept, in order. -/
theorem flatten_wordsFrom (m : Mode) (cs : List Char) :
    ∀ ws, wordsFrom m cs = some ws → ws.flatten = keptFrom m.isOpen cs := by
  induction m, cs using reading_induction with
  | nil m =>
      intro ws hws
      cases m <;> cases hws <;> rfl
  | quote m cs ih =>
      intro ws hws
      rw [wordsFrom_quote] at hws
      rw [ih ws hws, keptFrom, if_pos rfl, Mode.isOpen_turned]
  | gap m c cs hm hc ih =>
      intro ws hws
      rw [wordsFrom_gap hm hc, Option.map_eq_some_iff] at hws
      rcases hws with ⟨later, hlater, rfl⟩
      have hended : m.ended.flatten = [] := by
        cases m <;> rfl
      rw [List.flatten_append, hended, List.nil_append, ih later hlater, keptFrom,
        if_neg (ne_quote_of_isGap hc), hm, hc]
      rfl
  | char m c cs hquote hc ih =>
      intro ws hws
      rw [wordsFrom_char hquote hc, Option.map_eq_some_iff] at hws
      rcases hws with ⟨later, hlater, rfl⟩
      -- It is kept because it is no gap or because a quote is open.
      have hkept : (!m.isOpen && isGap c) = false := by
        rcases hc with hm | hgap
        · rw [hm]
          rfl
        · rw [hgap, Bool.and_false]
      rw [flatten_pushFront, ih later hlater, keptFrom, if_neg hquote, hkept,
        if_neg Bool.false_ne_true, Mode.isOpen_begun]

/-- A word that has begun is there to be read. -/
theorem wordsFrom_ne_nil (m : Mode) (cs : List Char) :
    m ≠ .between → wordsFrom m cs ≠ some [] := by
  induction m, cs using reading_induction with
  | nil m => cases m <;> simp [wordsFrom]
  | quote m cs ih =>
      intro _
      rw [wordsFrom_quote]
      exact ih m.turned_ne_between
  | gap m c cs hm hc _ =>
      intro hbegun hws
      rw [wordsFrom_gap hm hc, Option.map_eq_some_iff] at hws
      rcases hws with ⟨later, -, hlater⟩
      cases m with
      | between => exact hbegun rfl
      | bare => cases hlater
      | quoted => cases hm
  | char m c cs hquote hc _ =>
      intro _ hws
      rw [wordsFrom_char hquote hc, Option.map_eq_some_iff] at hws
      rcases hws with ⟨later, -, hlater⟩
      cases later <;> cases hlater

theorem pushFront_append {ws : List (List Char)} (h : ws ≠ []) (c : Char)
    (later : List (List Char)) : pushFront c (ws ++ later) = pushFront c ws ++ later := by
  cases ws with
  | nil => exact absurd rfl h
  | cons w ws => rfl

/-- Two lines with a gap between them have the words of the one and then those of the other. -/
theorem wordsFrom_append_gap {gap line : List Char} {later : List (List Char)} (hne : gap ≠ [])
    (hgap : ∀ c ∈ gap, isGap c = true) (hlater : wordsFrom .between line = some later) (m : Mode)
    (cs : List Char) :
    ∀ ws, wordsFrom m cs = some ws → wordsFrom m (cs ++ (gap ++ line)) = some (ws ++ later) := by
  induction m, cs using reading_induction with
  | nil m =>
      -- The first line is over, and the gap ends its last word.
      intro ws hws
      cases m with
      | between =>
          cases hws
          rw [List.nil_append, wordsFrom_between_gap hgap, hlater]
          rfl
      | bare =>
          cases hws
          rw [List.nil_append, wordsFrom_bare_gap hne hgap, hlater]
          rfl
      | quoted => cases hws
  | quote m cs ih =>
      intro ws hws
      rw [wordsFrom_quote] at hws
      rw [List.cons_append, wordsFrom_quote, ih ws hws]
  | gap m c cs hm hc ih =>
      intro ws hws
      rw [wordsFrom_gap hm hc, Option.map_eq_some_iff] at hws
      rcases hws with ⟨rest, hrest, rfl⟩
      rw [List.cons_append, wordsFrom_gap hm hc, ih rest hrest, Option.map_some, List.append_assoc]
  | char m c cs hquote hc ih =>
      intro ws hws
      rw [wordsFrom_char hquote hc, Option.map_eq_some_iff] at hws
      rcases hws with ⟨rest, hrest, rfl⟩
      -- The character goes into the first word of the rest, so there has to be one.
      have hbegun : rest ≠ [] := by
        rintro rfl
        exact wordsFrom_ne_nil m.begun cs m.begun_ne_between hrest
      rw [List.cons_append, wordsFrom_char hquote hc, ih rest hrest, Option.map_some,
        pushFront_append hbegun]

/-- The double quotes of a line. -/
def quotes (line : String) : Nat := line.toList.count '"'

/-- A line without its quotes and without the gaps outside of them. -/
def kept (line : String) : String := String.ofList (keptFrom false line.toList)

/-- A line in which a quote is left open is refused for that. -/
theorem words_eq_error {line : String} (h : wordsFrom .between line.toList = none) :
    words line = .error (.unreadable line .openQuote) := by
  unfold words words?
  rw [h]
  rfl

/-- A line that leaves no quote open has words. -/
theorem exists_wordsFrom {line : String} (h : quotes line % 2 = 0) :
    ∃ ws, wordsFrom .between line.toList = some ws := by
  refine Option.ne_none_iff_exists'.1 fun hnone => ?_
  have hodd := (wordsFrom_eq_none_iff _ _).1 hnone
  unfold quotes at h
  simp only [Mode.isOpen, Bool.toNat_false] at hodd
  omega

theorem join_map_ofList (ws : List (List Char)) :
    String.join (ws.map String.ofList) = String.ofList ws.flatten := by
  induction ws with
  | nil => rfl
  | cons w ws ih =>
      rw [List.map_cons, String.join_cons, ih, List.flatten_cons, String.ofList_append]

/-- What the words of a line are. A line is refused exactly if its quotes are odd in number, and
    always for the quote that is open at its end. Otherwise the words together are the line without
    its quotes and without the gaps outside of them. Two lines that leave no quote open can be put
    together with any gap: the words are those of the one and then those of the other. -/
theorem words_of_lines :
    (∀ line e, words line = .error e ↔
      e = .unreadable line .openQuote ∧ quotes line % 2 = 1) ∧
    (∀ line, quotes line % 2 = 0 →
      ∃ ws, words line = .ok ws ∧ String.join ws = kept line) ∧
    (∀ u gap v, quotes u % 2 = 0 → quotes v % 2 = 0 → gap ≠ "" →
      (∀ c ∈ gap.toList, isGap c = true) →
      ∃ us vs, words u = .ok us ∧ words v = .ok vs ∧ words (u ++ gap ++ v) = .ok (us ++ vs)) := by
  refine ⟨fun line e => ?_, fun line heven => ?_, fun u gap v hu hv hne hgap => ?_⟩
  · have hquotes : quotes line % 2 = 1 ↔ wordsFrom .between line.toList = none :=
      (wordsFrom_eq_none_iff .between _).symm
    rw [hquotes]
    cases hws : wordsFrom .between line.toList with
    | none =>
        rw [words_eq_error hws, Except.error.injEq]
        exact ⟨fun he => ⟨he.symm, rfl⟩, fun he => he.1.symm⟩
    | some ws =>
        rw [words_eq_ok hws]
        exact ⟨nofun, nofun⟩
  · rcases exists_wordsFrom heven with ⟨ws, hws⟩
    refine ⟨_, words_eq_ok hws, ?_⟩
    rw [join_map_ofList, flatten_wordsFrom _ _ ws hws]
    rfl
  · rcases exists_wordsFrom hu with ⟨us, hus⟩
    rcases exists_wordsFrom hv with ⟨vs, hvs⟩
    refine ⟨_, _, words_eq_ok hus, words_eq_ok hvs, ?_⟩
    have hne' : gap.toList ≠ [] := fun he => hne (String.toList_eq_nil_iff.1 he)
    have hboth := wordsFrom_append_gap hne' hgap hvs _ _ us hus
    rw [← List.map_append]
    refine words_eq_ok ?_
    rw [String.toList_append, String.toList_append, List.append_assoc]
    exact hboth

/-- Two lines with a tab and a line break between them, the first with a word that is partly in
    quotes and one that is empty. -/
theorem words_of_two_lines :
    (∃ us vs, words "say \"a  b\"c \"\"" = .ok us ∧ words "d" = .ok vs ∧
      words ("say \"a  b\"c \"\"" ++ "\t\n" ++ "d") = .ok (us ++ vs)) ∧
    (∃ ws, words "say \"a  b\"c \"\"" = .ok ws ∧ String.join ws = "saya  bc") ∧
    words "say \"a" = .error (.unreadable "say \"a" .openQuote) := by
  have hfirst : quotes "say \"a  b\"c \"\"" % 2 = 0 := by decide +kernel
  have hopen : quotes "say \"a" % 2 = 1 := by decide +kernel
  have hsecond : quotes "d" % 2 = 0 := by decide +kernel
  have hgap : "\t\n".toList.all isGap = true := by decide +kernel
  have hkept : kept "say \"a  b\"c \"\"" = "saya  bc" := by decide +kernel
  refine ⟨?_, ?_, ?_⟩
  · exact words_of_lines.2.2 _ _ _ hfirst hsecond (by decide) (List.all_eq_true.1 hgap)
  · rw [← hkept]
    exact words_of_lines.2.1 _ hfirst
  · exact (words_of_lines.1 _ _).2 ⟨rfl, hopen⟩

/-- A text as it may stand on a line: in double quotes, or without them if it is not empty and has
    no gap in it. -/
def Spells (piece text : String) : Prop :=
  piece = quote text ∨ piece = text ∧ text ≠ "" ∧ ∀ c ∈ text.toList, isGap c = false

/-- Texts one after the other on a line, with gaps between them. -/
def interleave : List String → List String → String
  | [], _ => ""
  | [piece], _ => piece
  | piece :: next :: pieces, gap :: gaps => piece ++ (gap ++ interleave (next :: pieces) gaps)
  | piece :: next :: pieces, [] => piece ++ interleave (next :: pieces) []

theorem Spells.writes {piece text : String} (h : Spells piece text) (hquote : '"' ∉ text.toList) :
    Writes piece.toList text.toList := by
  rcases h with rfl | ⟨rfl, hne, hgap⟩
  · exact writes_quote hquote
  · refine .bare (fun he => hne (String.toList_eq_nil_iff.1 he)) fun c hc => ⟨hgap c hc, ?_⟩
    rintro rfl
    exact hquote hc

/-- Texts that are written on a line with enough gaps between them are a row. -/
theorem row_interleave {pieces texts : List String} (h : List.Forall₂ Spells pieces texts)
    (hquote : ∀ text ∈ texts, '"' ∉ text.toList) :
    ∀ gaps : List String, texts.length ≤ gaps.length + 1 →
      (∀ gap ∈ gaps, gap ≠ "" ∧ ∀ c ∈ gap.toList, isGap c = true) →
      Row (interleave pieces gaps).toList (texts.map String.toList) := by
  induction h with
  | nil => exact fun _ _ _ => .empty
  | @cons piece text pieces texts hpiece hrest ih =>
      -- Behind the last text there is no gap, so whether more texts follow has to be known.
      intro gaps hlength hgaps
      have hword := hpiece.writes (hquote text List.mem_cons_self)
      have hlater := ih fun text ht => hquote text (List.mem_cons_of_mem _ ht)
      cases hrest with
      | nil => exact .last hword
      | cons hnext hothers =>
          cases gaps with
          | nil =>
              simp only [List.length_cons, List.length_nil] at hlength
              omega
          | cons gap gaps =>
              rcases hgaps gap List.mem_cons_self with ⟨hne, hgap⟩
              rw [interleave, String.toList_append, String.toList_append, List.map_cons]
              refine .more hword (fun he => hne (String.toList_eq_nil_iff.1 he)) hgap ?_
              refine hlater gaps ?_ fun gap hg => hgaps gap (List.mem_cons_of_mem _ hg)
              simp only [List.length_cons] at hlength ⊢
              omega

/-- Texts without double quotes, each of them in double quotes or bare if it can do without, are
    read back from a line on which they stand with gaps between them. -/
theorem words_interleave {pieces texts gaps : List String}
    (hquote : ∀ text ∈ texts, '"' ∉ text.toList) (h : List.Forall₂ Spells pieces texts)
    (hlength : texts.length ≤ gaps.length + 1)
    (hgaps : ∀ gap ∈ gaps, gap ≠ "" ∧ ∀ c ∈ gap.toList, isGap c = true) :
    words (interleave pieces gaps) = .ok texts :=
  (row_interleave h hquote gaps hlength hgaps).words_eq_ok

/-- Texts with spaces, with a line break, with nothing, with a backslash and with a single quote,
    the last two of them bare. -/
theorem words_of_five_texts :
    words (interleave [quote "a  b", quote "c\nd", quote "", "#\\", "it's"]
      [" ", "\t\r\n", "  ", "\n"]) = .ok ["a  b", "c\nd", "", "#\\", "it's"] := by
  have hquote : ∀ text ∈ ["a  b", "c\nd", "", "#\\", "it's"], '"' ∉ text.toList := by
    decide +kernel
  have hbare : ["#\\", "it's"].all (fun text => text.toList.all fun c => !isGap c) = true := by
    decide +kernel
  have hgaps : [" ", "\t\r\n", "  ", "\n"].all (fun gap => gap != "" && gap.toList.all isGap) =
      true := by decide +kernel
  simp only [List.all_eq_true, Bool.and_eq_true, bne_iff_ne, Bool.not_eq_true'] at hbare hgaps
  have hlast : ∀ text ∈ ["#\\", "it's"], Spells text text := by
    intro text ht
    refine Or.inr ⟨rfl, ?_, hbare text ht⟩
    rintro rfl
    simp at ht
  refine words_interleave hquote ?_ (by decide) hgaps
  refine .cons (Or.inl rfl) (.cons (Or.inl rfl) (.cons (Or.inl rfl) (.cons ?_ (.cons ?_ .nil))))
  · exact hlast _ List.mem_cons_self
  · exact hlast _ (List.mem_cons_of_mem _ List.mem_cons_self)

end Script

end Shopfloor
