import Shopfloor.Proofs.Script.Command
/-!
# Keywords of Any Words

What comes of a row of words that is read as keywords with their values, whatever
the words are.

The reader goes by pairs and stops in one of three ways: nothing is left, one word
is left and has no value, or it has come to a keyword that carries free text and
takes all that is left. So what a word means depends on its place. At an even place
it is a keyword, in whatever letters, and at an odd place it is a value, even if it
is spelt like a keyword. Behind free text no word is a keyword, and that is why an
odd number of words can be in order.

The words are cut into pairs and a rest once, and everything else is counted along
the pairs.

## Main definitions

* `Script.inTurn`: Pairs as they stand on a line.
* `Script.Stops`: Where the reader comes to an end.
* `Script.freeTextAt`: The place where free text begins.
* `Script.Dangling`: The last keyword has no value.
* `Script.Collected`: What the reader has collected, by the places of the words.

## Theorems

* `exists_pairs`: Words are cut into pairs and a rest.
* `keywordsBefore_inTurn`, `freeTextAt_eq`: Places are counted along the pairs.
* `keys_gathered`, `get?_gathered`: What pairs leave in a map.
* `keywords_exactly`: What comes of any words.
-/

namespace Shopfloor

namespace Script

/-- Keywords with their values, each value behind its keyword. -/
def inTurn (pairs : List (String × String)) : List String := pairs.flatMap fun e => [e.1, e.2]

/-- Where the reader comes to an end: there are no words left, or one that carries no free text, or
    a keyword with free text. -/
inductive Stops : List String → Prop
  | done : Stops []
  | lone {w : String} (hw : isFreeText (Text.lower w) = false) : Stops [w]
  | freeText {w : String} (hw : isFreeText (Text.lower w) = true) (rest : List String) :
      Stops (w :: rest)

/-- Words are keywords without free text, each with a value, up to where the reader stops. -/
theorem exists_pairs : ∀ ws : List String, ∃ pairs rest, ws = inTurn pairs ++ rest ∧
    (∀ e ∈ pairs, isFreeText (Text.lower e.1) = false) ∧ Stops rest
  | [] => ⟨[], [], rfl, nofun, .done⟩
  | [w] => by
      cases hw : isFreeText (Text.lower w) with
      | true => exact ⟨[], [w], rfl, nofun, .freeText hw []⟩
      | false => exact ⟨[], [w], rfl, nofun, .lone hw⟩
  | w :: v :: ws => by
      cases hw : isFreeText (Text.lower w) with
      | true => exact ⟨[], w :: v :: ws, rfl, nofun, .freeText hw (v :: ws)⟩
      | false =>
          rcases exists_pairs ws with ⟨pairs, rest, rfl, hpairs, hrest⟩
          exact ⟨(w, v) :: pairs, rest, rfl, List.forall_mem_cons.2 ⟨hw, hpairs⟩, hrest⟩

/-! ### Places -/

/-- The first even place with a keyword that carries free text, or the end of the words. -/
def freeTextAt (ws : List String) : Nat :=
  ((List.range ws.length).find? fun p =>
    p % 2 == 0 && ws[p]?.any fun w => isFreeText (Text.lower w)).getD ws.length

/-- The words at even places before a place, in small letters. -/
def keywordsBefore (ws : List String) (i : Nat) : List String :=
  ((List.range i).filter (· % 2 == 0)).filterMap fun p => ws[p]?.map Text.lower

/-- A keyword stands at an even place, in whatever letters, and at no later one before the end. -/
structure LastAt (ws : List String) (stop : Nat) (k : String) (p : Nat) : Prop where
  even : p % 2 = 0
  lt : p < stop
  spelt : ws[p]?.map Text.lower = some k
  last : ∀ q, p < q → q < stop → q % 2 = 0 → ws[q]?.map Text.lower ≠ some k

variable {pairs : List (String × String)} (rest : List String)

theorem length_inTurn : (inTurn pairs).length = 2 * pairs.length := by
  simp [inTurn, List.length_flatMap, Nat.mul_comm]

/-- At an even place among pairs stands a keyword, and behind it its value. -/
theorem getElem?_inTurn {j : Nat} {e : String × String} (h : pairs[j]? = some e) :
    (inTurn pairs ++ rest)[2 * j]? = some e.1 ∧ (inTurn pairs ++ rest)[2 * j + 1]? = some e.2 := by
  induction pairs generalizing j with
  | nil => cases h
  | cons x pairs ih =>
      cases j with
      | zero =>
          cases h
          exact ⟨rfl, rfl⟩
      | succ j => exact ih h

theorem exists_pair {p : Nat} (heven : p % 2 = 0) (hlt : p < 2 * pairs.length) :
    ∃ e, pairs[p / 2]? = some e ∧ (inTurn pairs ++ rest)[p]? = some e.1 ∧
      (inTurn pairs ++ rest)[p + 1]? = some e.2 := by
  have hj : p / 2 < pairs.length := by omega
  have hget := List.getElem?_eq_getElem hj
  have hplace : 2 * (p / 2) = p := by omega
  have hwords := getElem?_inTurn rest hget
  rw [hplace] at hwords
  exact ⟨_, hget, hwords⟩

/-- Behind pairs stand the other words. -/
theorem getElem?_rest (j : Nat) :
    (inTurn pairs ++ rest)[2 * pairs.length + j]? = rest[j]? := by
  rw [← length_inTurn, List.getElem?_append_right (Nat.le_add_right _ _), Nat.add_sub_cancel_left]

theorem keywordsBefore_cons (w v : String) (ws : List String) (i : Nat) :
    keywordsBefore (w :: v :: ws) (i + 2) = Text.lower w :: keywordsBefore ws i := by
  have hparity : ∀ p : Nat, (p + 1 + 1) % 2 = p % 2 := fun p => by omega
  unfold keywordsBefore
  rw [List.range_succ_eq_map, List.range_succ_eq_map]
  simp [List.filter_map, List.filterMap_map, Function.comp_def, hparity]

/-- The keywords before the end of pairs are those of the pairs. -/
theorem keywordsBefore_inTurn :
    keywordsBefore (inTurn pairs ++ rest) (2 * pairs.length) =
      pairs.map fun e => Text.lower e.1 := by
  induction pairs with
  | nil => rfl
  | cons e pairs ih =>
      rw [List.map_cons, ← ih]
      exact keywordsBefore_cons e.1 e.2 _ _

/-- Free text begins at a place if this is the end or has such a keyword, and no even place before
    it has one. -/
theorem freeTextAt_eq {ws : List String} {i : Nat}
    (hbefore : ∀ p < i, p % 2 = 0 → ∀ w, ws[p]? = some w → isFreeText (Text.lower w) = false)
    (hat : i = ws.length ∨ i % 2 = 0 ∧ ∃ w, ws[i]? = some w ∧ isFreeText (Text.lower w) = true) :
    freeTextAt ws = i := by
  have hnot : ∀ p < i, (!(p % 2 == 0 && ws[p]?.any fun w => isFreeText (Text.lower w))) = true := by
    intro p hp
    cases hw : ws[p]? with
    | none => simp
    | some w =>
        by_cases heven : p % 2 = 0
        · simp [hbefore p hp heven w hw]
        · simp [heven]
  unfold freeTextAt
  rcases hat with rfl | ⟨heven, w, hw, hfree⟩
  · rw [List.find?_range_eq_none.2 hnot]
    rfl
  · have hfound : (List.range ws.length).find? (fun p =>
        p % 2 == 0 && ws[p]?.any fun w => isFreeText (Text.lower w)) = some i := by
      have hlt := (List.getElem?_eq_some_iff.1 hw).1
      refine List.find?_range_eq_some.2 ⟨?_, List.mem_range.2 hlt, hnot⟩
      simp [heven, hw, hfree]
    rw [hfound]
    rfl

/-! ### What is collected -/

variable {rest : List String}

/-- The keywords of pairs with their values, the last value of each. -/
def gathered (pairs : List (String × String)) : Keyed String :=
  .ofList (pairs.map fun e => (Text.lower e.1, e.2))

theorem keys_gathered : (gathered pairs).keys = (pairs.map fun e => Text.lower e.1).eraseDups := by
  unfold gathered
  rw [Keyed.keys_ofList, List.map_map]
  rfl

/-- The value of a keyword is the one that stands behind it where it comes last. -/
theorem get?_gathered {j : Nat} {e : String × String} (h : pairs[j]? = some e)
    (hlast : ∀ j', j < j' → ∀ x, pairs[j']? = some x → Text.lower x.1 ≠ Text.lower e.1) :
    (gathered pairs).get? (Text.lower e.1) = some e.2 := by
  unfold gathered Keyed.ofList
  generalize (Keyed.empty : Keyed String) = m
  induction pairs generalizing j m with
  | nil => cases h
  | cons x pairs ih =>
      rw [List.map_cons, List.foldl_cons]
      cases j with
      | zero =>
          cases h
          rw [Keyed.get?_foldl_insert_of_notMem ?_, Keyed.get?_insert_self]
          -- None of the others writes the same keyword.
          intro hmem
          rw [List.map_map, List.mem_map] at hmem
          rcases hmem with ⟨y, hy, heq⟩
          rcases List.getElem?_of_mem hy with ⟨j', hj'⟩
          exact hlast (j' + 1) (Nat.succ_pos j') y hj' heq
      | succ j => exact ih h (fun j' hj' y hy => hlast (j' + 1) (Nat.succ_lt_succ hj') y hy) _

/-- The reader goes over pairs. -/
theorem keywordArgs_inTurn {line : String}
    (hfree : ∀ e ∈ pairs, isFreeText (Text.lower e.1) = false) :
    keywordArgs (inTurn pairs ++ rest) line = addArgs line (gathered pairs) rest := by
  unfold keywordArgs gathered Keyed.ofList
  rw [List.foldl_map]
  exact addArgs_append hfree rest .empty

/-- No even place among the pairs begins free text. -/
theorem free_inTurn (rest : List String)
    (hfree : ∀ e ∈ pairs, isFreeText (Text.lower e.1) = false) :
    ∀ p < 2 * pairs.length, p % 2 = 0 → ∀ w, (inTurn pairs ++ rest)[p]? = some w →
      isFreeText (Text.lower w) = false := by
  intro p hlt heven w hw
  rcases exists_pair rest heven hlt with ⟨e, he, hkey, -⟩
  rw [hkey] at hw
  cases hw
  exact hfree e (List.mem_of_getElem? he)

/-- What stands behind the last place of a keyword is gathered. -/
theorem LastAt.gathered {k : String} {p : Nat}
    (h : LastAt (inTurn pairs ++ rest) (2 * pairs.length) k p) :
    ∃ v, (inTurn pairs ++ rest)[p + 1]? = some v ∧ (gathered pairs).get? k = some v := by
  rcases exists_pair rest h.even h.lt with ⟨e, he, hkey, hvalue⟩
  have hspelt : Text.lower e.1 = k := by
    have hk := h.spelt
    rw [hkey] at hk
    exact Option.some.inj hk
  refine ⟨e.2, hvalue, ?_⟩
  rw [← hspelt]
  refine get?_gathered he fun j hj x hx heq => ?_
  have hplace := (getElem?_inTurn rest hx).1
  have hlt := (List.getElem?_eq_some_iff.1 hx).1
  refine h.last (2 * j) (by omega) (by omega) (by omega) ?_
  rw [hplace, Option.map_some, heq, hspelt]

/-- The last keyword has no value: the number of words is odd, and none at an even place carries
    free text. -/
structure Dangling (ws : List String) : Prop where
  odd : ws.length % 2 = 1
  noFreeText : ∀ p w, p % 2 = 0 → ws[p]? = some w → isFreeText (Text.lower w) = false

/-- What the reader has collected: one entry for each keyword before the place where free text
    begins, in the order in which they come first and with the value from where they come last, and
    behind them the free text, which is all that is left of the words. -/
structure Collected (ws : List String) (args : Keyed String) : Prop where
  keys : args.keys = (keywordsBefore ws (freeTextAt ws)).eraseDups ++
    (ws[freeTextAt ws]?.map Text.lower).toList
  value : ∀ k p, LastAt ws (freeTextAt ws) k p → ∃ v, ws[p + 1]? = some v ∧ args.get? k = some v
  freeText : ∀ w, ws[freeTextAt ws]? = some w →
    args.get? (Text.lower w) = some (" ".intercalate (ws.drop (freeTextAt ws + 1)))

/-- Pairs alone are collected. -/
theorem collected_inTurn (hfree : ∀ e ∈ pairs, isFreeText (Text.lower e.1) = false) :
    Collected (inTurn pairs ++ []) (gathered pairs) := by
  have hlength : 2 * pairs.length = (inTurn pairs ++ []).length := by
    rw [List.append_nil, length_inTurn]
  have hat := freeTextAt_eq (free_inTurn _ hfree) (.inl hlength)
  have hnone : (inTurn pairs ++ [])[2 * pairs.length]? = none := getElem?_rest _ 0
  refine ⟨?_, fun k p hlast => ?_, fun w hw => ?_⟩
  · rw [hat, hnone, keys_gathered, keywordsBefore_inTurn]
    exact (List.append_nil _).symm
  · rw [hat] at hlast
    exact hlast.gathered
  · rw [hat, hnone] at hw
    cases hw

/-- Pairs are collected with the free text behind them. -/
theorem collected_freeText {w : String}
    (hfree : ∀ e ∈ pairs, isFreeText (Text.lower e.1) = false)
    (hw : isFreeText (Text.lower w) = true) :
    Collected (inTurn pairs ++ w :: rest)
      ((gathered pairs).insert (Text.lower w) (" ".intercalate rest)) := by
  have hplace : (inTurn pairs ++ w :: rest)[2 * pairs.length]? = some w := getElem?_rest _ 0
  have hat := freeTextAt_eq (free_inTurn _ hfree) (.inr ⟨Nat.mul_mod_right 2 _, w, hplace, hw⟩)
  have hnew : Text.lower w ∉ (gathered pairs).keys := by
    rw [keys_gathered, List.mem_eraseDups, List.mem_map]
    rintro ⟨e, he, heq⟩
    rw [← heq, hfree e he] at hw
    cases hw
  refine ⟨?_, fun k p hlast => ?_, fun v hv => ?_⟩
  · rw [hat, hplace, Keyed.keys_insert, if_neg hnew, keys_gathered, keywordsBefore_inTurn]
    rfl
  · rw [hat] at hlast
    rcases hlast.gathered with ⟨v, hv, hget⟩
    have hne : k ≠ Text.lower w := by
      rintro rfl
      rw [(Keyed.get?_eq_none_iff _ _).2 hnew] at hget
      cases hget
    exact ⟨v, hv, (Keyed.get?_insert_of_ne _ _ hne).trans hget⟩
  · have hdrop : (inTurn pairs ++ w :: rest).drop (2 * pairs.length + 1) = rest := by
      rw [← length_inTurn, List.drop_length_add_append]
      rfl
    rw [hat, hplace] at hv
    cases hv
    rw [hat, hdrop]
    exact Keyed.get?_insert_self _ _ _

/-- A keyword that is left alone behind pairs has no value. -/
theorem dangling_lone {w : String} (hfree : ∀ e ∈ pairs, isFreeText (Text.lower e.1) = false)
    (hw : isFreeText (Text.lower w) = false) : Dangling (inTurn pairs ++ [w]) := by
  have hlength : (inTurn pairs ++ [w]).length = 2 * pairs.length + 1 := by
    rw [List.length_append, length_inTurn, List.length_singleton]
  refine ⟨by omega, fun p v heven hv => ?_⟩
  have hlt := (List.getElem?_eq_some_iff.1 hv).1
  by_cases hp : p < 2 * pairs.length
  · exact free_inTurn _ hfree p hp heven v hv
  · -- The last word is the only one that is in no pair.
    have hplace : p = 2 * pairs.length + 0 := by omega
    rw [hplace, getElem?_rest] at hv
    cases hv
    exact hw

/-- What the reader makes of keywords, whatever the words are. It refuses them exactly if the last
    keyword has no value, and names that keyword; otherwise it collects them. -/
theorem keywords_exactly (ws : List String) (line : String) :
    ((∃ fault, keywordArgs ws line = .error fault) ↔ Dangling ws) ∧
    (∀ fault, keywordArgs ws line = .error fault →
      ∃ w, ws.getLast? = some w ∧ fault = .unreadable line (.missingValue (Text.lower w))) ∧
    (¬ Dangling ws → ∃ args, keywordArgs ws line = .ok args ∧ Collected ws args) := by
  rcases exists_pairs ws with ⟨pairs, rest, rfl, hfree, hstops⟩
  rw [keywordArgs_inTurn hfree]
  cases hstops with
  | done =>
      have hread : addArgs line (gathered pairs) [] = .ok (gathered pairs) := rfl
      rw [hread]
      refine ⟨⟨?_, fun h => ?_⟩, ?_, ?_⟩
      · rintro ⟨_, ⟨⟩⟩
      · have hodd := h.odd
        rw [List.append_nil, length_inTurn] at hodd
        omega
      · rintro _ ⟨⟩
      · exact fun _ => ⟨_, rfl, collected_inTurn hfree⟩
  | @lone w hw =>
      have hread : addArgs line (gathered pairs) [w] =
          .error (.unreadable line (.missingValue (Text.lower w))) := by
        rw [addArgs, hw]
        rfl
      rw [hread]
      refine ⟨⟨fun _ => dangling_lone hfree hw, fun _ => ⟨_, rfl⟩⟩, ?_, ?_⟩
      · rintro fault ⟨⟩
        exact ⟨w, List.getLast?_concat, rfl⟩
      · exact fun h => absurd (dangling_lone hfree hw) h
  | @freeText w hw rest =>
      have hread : addArgs line (gathered pairs) (w :: rest) =
          .ok ((gathered pairs).insert (Text.lower w) (" ".intercalate rest)) := by
        unfold addArgs
        dsimp only
        rw [hw, if_pos rfl]
      rw [hread]
      refine ⟨⟨?_, fun h => ?_⟩, ?_, ?_⟩
      · rintro ⟨_, ⟨⟩⟩
      · have hnot := h.noFreeText _ w (Nat.mul_mod_right 2 _) (getElem?_rest _ 0)
        rw [hw] at hnot
        cases hnot
      · rintro _ ⟨⟩
      · exact fun _ => ⟨_, rfl, collected_freeText hfree hw⟩

/-- Words with a keyword twice, with a keyword that is a value, and with free text behind them. -/
def shout : List String :=
  ["Name", "event", "kind", "x", "NAME", "Ann", "Event", "door", "event", "open"]

/-- The keyword in the place of a value begins no free text, the second name is the one that counts,
    and without its value it is the one that is refused. -/
theorem keywords_of_shout :
    (∃ args, keywordArgs shout "" = .ok args ∧
      args.entries = [("name", "Ann"), ("kind", "x"), ("event", "door event open")] ∧
      Collected shout args) ∧
    ∃ w, (shout.take 5).getLast? = some w ∧ Fault.unreadable "" (.missingValue "name") =
      .unreadable "" (.missingValue (Text.lower w)) := by
  have hread : keywordArgs shout "" = .ok ⟨[("name", "Ann"), ("kind", "x"),
      ("event", "door event open")], by decide⟩ := by decide +kernel
  have hrefused : keywordArgs (shout.take 5) "" =
      .error (.unreadable "" (.missingValue "name")) := by
    decide +kernel
  have hcomplete : ¬ Dangling shout := by
    intro h
    rcases (keywords_exactly shout "").1.2 h with ⟨fault, hfault⟩
    rw [hread] at hfault
    cases hfault
  rcases (keywords_exactly shout "").2.2 hcomplete with ⟨args, hargs, hcollected⟩
  rw [hread] at hargs
  cases hargs
  exact ⟨⟨_, hread, rfl, hcollected⟩, (keywords_exactly (shout.take 5) "").2.1 _ hrefused⟩

end Script

end Shopfloor
