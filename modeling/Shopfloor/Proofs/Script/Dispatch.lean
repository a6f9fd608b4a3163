import Shopfloor.Proofs.Script.Command
import Shopfloor.Script.Statement
/-!
# From Words to Rules

Which lines come to the rule of a name, and what the rule is given.

A name of two words is put together from the first two words of a line, if the
first of them takes an object, and is looked up as one text. But a word may have
spaces in it, where it was written in double quotes. So there is a second way to
such a name: the first word alone may already spell it. `Begins` lists the two
ways, and a line comes to the rule exactly in one of them. What the command is
about is the word behind the name, which in the second way is not the third word
of the line but the second.

No way is left but the first where the first word has no space in it: its small
form has none either, and a name of two words has one.

## Main definitions

* `Script.Heads`: The name at the head of a row of words.
* `Script.Dispatched`: A line comes to the rule of a name.
* `Script.Begins`: The two ways to a name of two words.

## Theorems

* `Script.takeName_eq_ok_iff`, `Script.Command.read_eq_ok_iff`: What a line is taken apart into.
* `Script.verb_mem_compoundVerbs`: Names of two words begin with a verb that takes an object.
* `Script.heads_iff_begins`: Both ways, and no other.
* `Script.dispatched_iff`: The lines that come to a rule with a name of two words.
* `Script.dispatched_in_quotes`: A line that comes to one with the name in its first word.
-/

namespace Shopfloor

namespace Script

variable {line name verb object : String} {form : Form} {c : Command} {ws rest : List String}

/-- The name at the head of a row of words, and the words behind it. -/
inductive Heads : List String → String → List String → Prop
  | alone {first : String} {rest : List String} (h : Text.lower first ∉ compoundVerbs) :
    Heads (first :: rest) (Text.lower first) rest
  | withObject {first second : String} {rest : List String}
    (h : Text.lower first ∈ compoundVerbs) :
    Heads (first :: second :: rest) (" ".intercalate [Text.lower first, Text.lower second]) rest

/-- The name of a row of words is taken from its head. -/
theorem takeName_eq_ok_iff : takeName line ws = .ok (name, rest) ↔ Heads ws name rest := by
  constructor
  · intro h
    cases ws with
    | nil => cases h
    | cons first ws =>
        unfold takeName at h
        dsimp only at h
        split at h
        next hverb =>
          cases ws with
          | nil => cases h
          | cons second ws =>
              cases h
              exact .withObject hverb
        next hverb =>
          cases h
          exact .alone hverb
  · intro h
    cases h with
    | alone h => exact if_neg h
    | withObject h => exact if_pos h

/-- A line is taken apart into its name, what it is about, and keywords with their values. -/
theorem Command.read_eq_ok_iff :
    Command.read line = .ok c ↔
      ∃ ws rest, words line = .ok ws ∧ Heads ws c.name rest ∧ c.target = rest.head? ∧
        keywordArgs (rest.drop 1) line = .ok c.args ∧ c.line = line := by
  unfold Command.read
  constructor
  · intro h
    rcases bind_eq_ok_iff.1 h with ⟨ws, hws, h⟩
    rcases bind_eq_ok_iff.1 h with ⟨⟨name, rest⟩, hname, h⟩
    rcases bind_eq_ok_iff.1 h with ⟨args, hargs, h⟩
    cases h
    exact ⟨ws, rest, hws, takeName_eq_ok_iff.1 hname, rfl, hargs, rfl⟩
  · rintro ⟨ws, rest, hws, hname, htarget, hargs, hline⟩
    rw [hws, ok_bind, takeName_eq_ok_iff.2 hname, ok_bind]
    dsimp only
    rw [hargs, ok_bind, ← htarget, ← hline]
    rfl

/-- A line comes to the rule of a name, which is given the command. -/
structure Dispatched (line name : String) (form : Form) (c : Command) : Prop where
  read : Command.read line = .ok c
  called : c.name = name
  rule : forms.lookup name = some form

/-- What a line asks is what the rule reads that it comes to. -/
theorem Dispatched.statement_read (h : Dispatched line name form c) :
    Statement.read line = form c := by
  unfold Statement.read Statement.ofCommand
  rw [h.read, ok_bind, h.called, h.rule]

/-! ## Names of two words -/

/-- The two ways to a name of two words, with the words behind it. -/
inductive Begins (verb object : String) : List String → List String → Prop
  /-- Two words of the line are the words of the name. -/
  | apart {first second : String} {rest : List String} (hverb : Text.lower first = verb)
    (hobject : Text.lower second = object) : Begins verb object (first :: second :: rest) rest
  /-- One word of the line is all of the name. -/
  | together {first : String} {rest : List String}
    (h : Text.lower first = " ".intercalate [verb, object]) :
    Begins verb object (first :: rest) rest

/-- Two words joined by a space, the first of which has no space in it, can be told apart. -/
theorem split_pair (h : ' ' ∉ verb.toList) :
    Text.split ' ' (" ".intercalate [verb, object]) = verb :: Text.split ' ' object := by
  have hpair : " ".intercalate [verb, object] = verb ++ (String.singleton ' ' ++ object) :=
    String.append_assoc
  rw [hpair, Text.split_append h]

/-- A rule that is found under a name is in the table. -/
theorem mem_forms (h : forms.lookup name = some form) : (name, form) ∈ forms := by
  rcases List.lookup_eq_some_iff.1 h with ⟨before, after, hforms, -⟩
  rw [hforms]
  exact List.mem_append_right _ List.mem_cons_self

/-- A verb that takes an object is one word. -/
theorem space_notMem_of_compound : ∀ v ∈ compoundVerbs, ' ' ∉ v.toList := by decide +kernel

/-- The words of a name, all but the last, take an object. -/
theorem forms_compound :
    ∀ rule ∈ forms, ∀ w ∈ (Text.split ' ' rule.1).dropLast, w ∈ compoundVerbs := by
  decide +kernel

/-- A name of two words begins with a verb that takes an object. -/
theorem verb_mem_compoundVerbs (hform : forms.lookup name = some form)
    (hname : Text.split ' ' name = [verb, object]) : verb ∈ compoundVerbs := by
  have hwords := forms_compound (name, form) (mem_forms hform)
  rw [hname] at hwords
  exact hwords verb List.mem_cons_self

/-- A name of two words is at the head of a row in one of two ways. -/
theorem heads_iff_begins (hverb : verb ∈ compoundVerbs)
    (hname : Text.split ' ' name = [verb, object]) :
    Heads ws name rest ↔ Begins verb object ws rest := by
  have hjoined : name = " ".intercalate [verb, object] := by
    rw [← hname]
    exact (Text.intercalate_split ' ' name).symm
  constructor
  · intro h
    cases h with
    | alone _ => exact .together hjoined
    | @withObject first second _ h =>
        -- The verb of the line ends where the verb of the name ends, at the first space.
        rw [split_pair (space_notMem_of_compound _ h), List.cons.injEq] at hname
        refine .apart hname.1 ?_
        rw [← Text.intercalate_split ' ' (Text.lower second), hname.2,
          String.intercalate_singleton]
  · intro h
    cases h with
    | apart hfirst hsecond =>
        subst hfirst hsecond
        rw [hjoined]
        exact .withObject hverb
    | @together first _ h =>
        rw [hjoined, ← h]
        refine .alone fun hmem => ?_
        rw [h, ← hjoined] at hmem
        rw [Text.split_of_notMem (space_notMem_of_compound _ hmem)] at hname
        cases hname

/-- If the first word has no space in it, the first two words are those of the name. -/
theorem Begins.of_no_space {first : String} (h : Begins verb object (first :: ws) rest)
    (hfirst : ' ' ∉ first.toList) :
    ∃ second, ws = second :: rest ∧ Text.lower first = verb ∧ Text.lower second = object := by
  cases h with
  | apart hverb hobject => exact ⟨_, rfl, hverb, hobject⟩
  | together h =>
      have hspace : ' ' ∈ (Text.lower first).toList := by
        have hpair : " ".intercalate [verb, object] = verb ++ " " ++ object := rfl
        rw [h, hpair, String.toList_append, String.toList_append]
        exact List.mem_append_left _ (List.mem_append_right _ List.mem_cons_self)
      exact absurd hspace (Text.space_notMem_lower hfirst)

/-- The lines that come to the rule of a name of two words. The first two words of the line are those
    of the name, or its first word is the whole name, and no other line comes to the rule. What the
    command is about is the next word in both cases, if there is one. Where the first word has no
    space in it, only the first case is left. The line asks what the rule reads. -/
theorem dispatched_iff (hform : forms.lookup name = some form)
    (hname : Text.split ' ' name = [verb, object]) (line : String) (c : Command) :
    (Dispatched line name form c ↔
      ∃ ws rest, words line = .ok ws ∧ Begins verb object ws rest ∧ c.target = rest.head? ∧
        keywordArgs (rest.drop 1) line = .ok c.args ∧ c.name = name ∧ c.line = line) ∧
    (Dispatched line name form c → ∀ first ws, words line = .ok (first :: ws) →
      ' ' ∉ first.toList → ∃ second rest, ws = second :: rest ∧ Text.lower first = verb ∧
        Text.lower second = object ∧ c.target = rest.head?) ∧
    (Dispatched line name form c → Statement.read line = form c) := by
  have hverb := verb_mem_compoundVerbs hform hname
  have hiff : Dispatched line name form c ↔
      ∃ ws rest, words line = .ok ws ∧ Begins verb object ws rest ∧ c.target = rest.head? ∧
        keywordArgs (rest.drop 1) line = .ok c.args ∧ c.name = name ∧ c.line = line := by
    constructor
    · intro h
      rcases Command.read_eq_ok_iff.1 h.read with ⟨ws, rest, hws, hheads, htarget, hargs, hline⟩
      rw [h.called] at hheads
      exact ⟨ws, rest, hws, (heads_iff_begins hverb hname).1 hheads, htarget, hargs, h.called, hline⟩
    · rintro ⟨ws, rest, hws, hbegins, htarget, hargs, hcname, hline⟩
      have hheads := (heads_iff_begins hverb hname).2 hbegins
      rw [← hcname] at hheads
      exact ⟨Command.read_eq_ok_iff.2 ⟨ws, rest, hws, hheads, htarget, hargs, hline⟩, hcname, hform⟩
  refine ⟨hiff, fun h first ws hws hfirst => ?_, Dispatched.statement_read⟩
  rcases hiff.1 h with ⟨ws', rest, hws', hbegins, htarget, -⟩
  rw [hws, Except.ok.injEq] at hws'
  subst hws'
  rcases hbegins.of_no_space hfirst with ⟨second, hrest, hlower, hobject⟩
  exact ⟨second, rest, hrest, hlower, hobject, htarget⟩

/-- A line with capital letters comes to the rule for stores by its first two words. -/
theorem dispatched_by_two_words :
    ∃ c, Dispatched "DEFINE Store S1 name N address A" "define store" defineStore c ∧
      c.target = some "S1" := by
  have hread : Command.read "DEFINE Store S1 name N address A" =
      .ok ⟨"define store", some "S1", .ofList [("name", "N"), ("address", "A")],
        "DEFINE Store S1 name N address A"⟩ := by decide +kernel
  have hwords : words "DEFINE Store S1 name N address A" =
      .ok ["DEFINE", "Store", "S1", "name", "N", "address", "A"] := by decide +kernel
  have hsplit : Text.split ' ' "define store" = ["define", "store"] := by decide +kernel
  have hform : forms.lookup "define store" = some defineStore := rfl
  have h := (dispatched_iff hform hsplit _ _).2.1 ⟨hread, rfl, hform⟩ _ _ hwords (by decide)
  rcases h with ⟨second, rest, hrest, -, -, htarget⟩
  cases hrest
  exact ⟨_, ⟨hread, rfl, hform⟩, htarget⟩

/-- A line with the name in double quotes comes to the same rule, and its second word is what the
    command is about. So the first two words need not be those of the name. -/
theorem dispatched_in_quotes :
    ¬ ∀ line name form verb object c, Text.split ' ' name = [verb, object] →
      Dispatched line name form c →
        ∃ first second rest, words line = .ok (first :: second :: rest) ∧
          Text.lower first = verb ∧ Text.lower second = object ∧ c.target = rest.head? := by
  intro hall
  have hread : Command.read "\"define store\" S1 name N address A" =
      .ok ⟨"define store", some "S1", .ofList [("name", "N"), ("address", "A")],
        "\"define store\" S1 name N address A"⟩ := by decide +kernel
  have hwords : words "\"define store\" S1 name N address A" =
      .ok ["define store", "S1", "name", "N", "address", "A"] := by decide +kernel
  have hsplit : Text.split ' ' "define store" = ["define", "store"] := by decide +kernel
  rcases hall _ _ defineStore _ _ _ hsplit ⟨hread, rfl, rfl⟩ with
    ⟨first, second, rest, hws, hfirst, -⟩
  rw [hwords] at hws
  cases hws
  exact absurd hfirst (by decide +kernel)

end Script

end Shopfloor
