import Shopfloor.Proofs.Except
import Shopfloor.Proofs.Keyed.Order
import Shopfloor.Proofs.Keyed.Row
import Shopfloor.Proofs.Script.Word
import Shopfloor.Proofs.Text.Plain
/-!
# Written Commands Are Read Back

A command that is written on a line is taken apart into what was written.

A `Sentence` is what a command line says before it is written: the words of the
verb, the id it is about, and keywords with their values. Its line has the
words and keywords as they are and the id and the values in double quotes. Ids
and values can be anything that has no double quote in it; verb and keywords
are fixed by the forms of command, and all of them are plain.

Two keywords carry free text. They take all that is left of a line, so such a
keyword has to stand alone; what it takes is then the one word that its value
was written as.

## Main definitions

* `Script.Sentence`: What a command line says.
* `Script.Sentence.line`: The line that says it.
* `Script.Sentence.Formed`: A sentence that can be said.
* `Script.Command.Says`: A command is what a sentence says.

## Theorems

* `addArgs_append`, `addArgs_values`: The reader collects keywords with their values.
* `Sentence.Formed.read_line`: The line of a sentence is read back.
-/

namespace Shopfloor

namespace Script

/-- What a command line says. -/
structure Sentence where
  /-- The words of the verb: one, or two if it takes an object. -/
  verb : List String
  target : String
  args : List (String × String)

namespace Sentence

/-- The words of a sentence, each with what is written for it. -/
def pieces (s : Sentence) : List (String × String) :=
  s.verb.map (fun w => (w, w)) ++
    (quote s.target, s.target) :: s.args.flatMap fun e => [(e.1, e.1), (quote e.2, e.2)]

/-- The line that says a sentence: the id and the values are in double quotes. -/
def line (s : Sentence) : String := " ".intercalate (s.pieces.map Prod.fst)

/-- A sentence that can be said. Verb and keywords are plain, the verb takes an object or not, no
    keyword comes twice, one with free text stands alone, and no text has a double quote in it. -/
structure Formed (s : Sentence) : Prop where
  plain : ∀ w ∈ s.verb ++ s.args.map Prod.fst, w ≠ "" ∧ w.toList.all Text.isPlain = true
  verb : (∃ v, s.verb = [v] ∧ v ∉ compoundVerbs) ∨ ∃ v o, s.verb = [v, o] ∧ v ∈ compoundVerbs
  keys : (s.args.map Prod.fst).Nodup
  alone : ∀ e ∈ s.args, isFreeText e.1 = true → s.args = [e]
  target : '"' ∉ s.target.toList
  values : ∀ e ∈ s.args, '"' ∉ e.2.toList

end Sentence

/-- A plain word may stand on a line as it is. -/
theorem writes_of_isPlain {w : String} (hne : w ≠ "") (h : w.toList.all Text.isPlain = true) :
    Writes w.toList w.toList := by
  refine .bare (fun hnil => hne (String.toList_eq_nil_iff.1 hnil)) fun c hc => ?_
  have hrange := Text.range_of_isPlain (List.all_eq_true.1 h c hc)
  have hne : ∀ d : Char, d.toNat < 95 → ¬ c = d := fun d hd hcd => by
    rw [hcd] at hrange
    omega
  refine ⟨?_, hne '"' (by decide)⟩
  unfold isGap
  rw [decide_eq_false (hne ' ' (by decide)), decide_eq_false (hne '\t' (by decide)),
    decide_eq_false (hne '\r' (by decide)), decide_eq_false (hne '\n' (by decide))]
  rfl

/-- The reader goes over keywords that carry no free text, each with the value behind it. -/
theorem addArgs_append {line : String} {args : List (String × String)}
    (hfree : ∀ e ∈ args, isFreeText (Text.lower e.1) = false) (rest : List String)
    (m : Keyed String) :
    addArgs line m ((args.flatMap fun e => [e.1, e.2]) ++ rest) =
      addArgs line (args.foldl (fun m e => m.insert (Text.lower e.1) e.2) m) rest := by
  induction args generalizing m with
  | nil => rfl
  | cons e args ih =>
      have hnext := ih (fun x hx => hfree x (List.mem_cons_of_mem _ hx))
        (m.insert (Text.lower e.1) e.2)
      rw [List.flatMap_cons, List.append_assoc, List.cons_append, List.singleton_append, addArgs,
        hfree e List.mem_cons_self, if_neg nofun]
      exact hnext

/-- The reader collects keywords with their values, if none of them carries free text. -/
theorem addArgs_values {line : String} {args : List (String × String)}
    (hplain : ∀ e ∈ args, Text.lower e.1 = e.1) (hfree : ∀ e ∈ args, isFreeText e.1 = false)
    (m : Keyed String) :
    addArgs line m (args.flatMap fun e => [e.1, e.2]) =
      .ok (args.foldl (fun m e => m.insert e.1 e.2) m) := by
  have hfree' : ∀ e ∈ args, isFreeText (Text.lower e.1) = false := fun e he => by
    rw [hplain e he]
    exact hfree e he
  have hread : addArgs line m ((args.flatMap fun e => [e.1, e.2]) ++ []) = _ :=
    addArgs_append hfree' [] m
  rw [List.append_nil, List.foldl_ext _ (fun m e => m.insert e.1 e.2) m
    (fun m e he => by rw [hplain e he])] at hread
  exact hread

/-- A keyword with free text takes the value that stands behind it. -/
theorem addArgs_freeText {line : String} {e : String × String} (hplain : Text.lower e.1 = e.1)
    (hfree : isFreeText e.1 = true) (m : Keyed String) :
    addArgs line m [e.1, e.2] = .ok (m.insert e.1 e.2) := by
  rw [addArgs, hplain, hfree, if_pos rfl, String.intercalate_singleton]

/-- A command is what a sentence says. -/
structure Command.Says (c : Command) (s : Sentence) : Prop where
  name : c.name = " ".intercalate s.verb
  target : c.target = some s.target
  args : ∀ k, c.args.get? k = s.args.lookup k

namespace Sentence

variable {s : Sentence}

theorem Formed.lower_eq (h : s.Formed) {w : String} (hw : w ∈ s.verb ++ s.args.map Prod.fst) :
    Text.lower w = w :=
  Text.lower_of_isPlain (h.plain w hw).2

theorem Formed.lower_key (h : s.Formed) (e : String × String) (he : e ∈ s.args) :
    Text.lower e.1 = e.1 :=
  h.lower_eq (List.mem_append_right _ (List.mem_map.2 ⟨e, he, rfl⟩))

/-- The words of the line are the words of the sentence. -/
theorem Formed.words_line (h : s.Formed) :
    words s.line =
      .ok (s.verb ++ s.target :: s.args.flatMap fun e => [e.1, e.2]) := by
  have hplain : ∀ w ∈ s.verb ++ s.args.map Prod.fst, Writes w.toList w.toList := fun w hw =>
    writes_of_isPlain (h.plain w hw).1 (h.plain w hw).2
  have hpieces : ∀ e ∈ s.pieces, Writes e.1.toList e.2.toList := by
    intro e he
    unfold pieces at he
    rw [List.mem_append, List.mem_cons, List.mem_map, List.mem_flatMap] at he
    rcases he with ⟨w, hw, rfl⟩ | rfl | ⟨e', he', he⟩
    · exact hplain w (List.mem_append_left _ hw)
    · exact writes_quote h.target
    · rw [List.mem_cons, List.mem_singleton] at he
      rcases he with rfl | rfl
      · exact hplain e'.1 (List.mem_append_right _ (List.mem_map.2 ⟨e', he', rfl⟩))
      · exact writes_quote (h.values e' he')
  have hwords : s.pieces.map Prod.snd =
      s.verb ++ s.target :: s.args.flatMap fun e => [e.1, e.2] := by
    unfold pieces
    rw [List.map_append, List.map_map, List.map_cons, List.map_flatMap]
    exact congrArg (· ++ _) (List.map_id s.verb)
  unfold line
  rw [words_intercalate hpieces, hwords]

/-- The name of the command is what the verb says. -/
theorem Formed.takeName_eq (h : s.Formed) (line : String) (rest : List String) :
    takeName line (s.verb ++ rest) = .ok (" ".intercalate s.verb, rest) := by
  have hlower : ∀ w ∈ s.verb, Text.lower w = w := fun w hw => h.lower_eq (List.mem_append_left _ hw)
  rcases h.verb with ⟨v, hv, hnot⟩ | ⟨v, o, hv, hin⟩
  · rw [hv] at hlower ⊢
    unfold takeName
    rw [List.singleton_append]
    dsimp only
    rw [hlower v List.mem_cons_self, if_neg hnot, String.intercalate_singleton]
  · rw [hv] at hlower ⊢
    unfold takeName
    rw [List.cons_append, List.singleton_append]
    dsimp only
    rw [hlower v List.mem_cons_self, if_pos hin,
      hlower o (List.mem_cons_of_mem _ List.mem_cons_self)]
    rfl

/-- The keywords of the command are those of the sentence. -/
theorem Formed.keywordArgs_eq (h : s.Formed) (line : String) :
    keywordArgs (s.args.flatMap fun e => [e.1, e.2]) line = .ok (.ofList s.args) := by
  unfold keywordArgs
  by_cases hfree : ∀ e ∈ s.args, isFreeText e.1 = false
  · exact addArgs_values h.lower_key hfree .empty
  · -- A keyword with free text is the only one.
    have hsome : ∃ e ∈ s.args, isFreeText e.1 = true := by
      simpa only [not_forall, exists_prop, Bool.not_eq_false] using hfree
    rcases hsome with ⟨e, he, htrue⟩
    rw [h.alone e he htrue]
    exact addArgs_freeText (h.lower_key e he) htrue .empty

/-- The line of a sentence is read back. -/
theorem Formed.read_line (h : s.Formed) : ∃ c, Command.read s.line = .ok c ∧ c.Says s := by
  refine ⟨⟨" ".intercalate s.verb, some s.target, .ofList s.args, s.line⟩, ?_, rfl, rfl,
    Keyed.get?_ofList h.keys⟩
  have hrest : keywordArgs ((s.target :: s.args.flatMap fun e => [e.1, e.2]).drop 1) s.line =
      .ok (.ofList s.args) := h.keywordArgs_eq s.line
  unfold Command.read
  rw [h.words_line, ok_bind, h.takeName_eq, ok_bind]
  dsimp only
  rw [hrest, ok_bind]
  rfl

end Sentence

end Script

end Shopfloor
