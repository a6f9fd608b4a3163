import Shopfloor.Proofs.Script.Ending
import Shopfloor.Proofs.Text.Lines
import Shopfloor.Proofs.Text.Utf8
import Shopfloor.Script.Replay
/-!
# Files as Rows of Lines

Carrying out a file is carrying out its lines one after another, wherever the file
was found.

The lines that count are those that are not passed over, each trimmed and with
the number that it has in the file. What comes of them is said without any
reference to files or streams: `outcomes` asks the first line of the shop, the
second line of the shop that the first one left, and so on, whatever the
outcomes are. A told outcome is an answer or a failure. The other faults, a
refused record and a value that can be neither read nor written, end a replay
in the middle, so the row of lines is compared with the file up to there.

## Main definitions

* `Script.entries`: The lines of a file that are carried out.
* `Script.Told`: The outcomes that a replay goes on after.
* `Script.outcomes`, `Script.shopAfter`: What comes of lines, and of the shop.
* `Script.Run.after`, `Script.Console.after`: What a replay says about them.

## Theorems

* `Script.run_replayLine_told`, `Script.run_replayLine_escape`: One line of a file.
* `Script.foldlM_replayLine`: The lines up to a given place.
* `Script.long_of_escape`: The one fault that stops a replay.
* `Script.file_is_its_lines`: A file with text in it is its lines.
* `Script.replay_stopped`: A file that is not carried out to its end.
-/

namespace Shopfloor

namespace Script

/-! ## Lines without a file -/

/-- The lines of a file that are carried out, trimmed and with their numbers. -/
def entriesOf (numbered : List (List Char × Nat)) : List (Nat × String) :=
  numbered.filterMap fun l =>
    if isSkipped (Text.trimChars l.1) then none else some (l.2, String.ofList (Text.trimChars l.1))

/-- The lines that are carried out of a file with the given lines; the first has number one. -/
def entries (lines : List (List Char)) : List (Nat × String) := entriesOf (lines.zipIdx 1)

/-- The outcomes that a replay goes on after: an answer or a failure, but no other fault. -/
inductive Told : Except Fault String → Prop
  | answer (text : String) : Told (.ok text)
  | failure (action : String) (cause : Cause) : Told (.error (.failure action cause))

variable (token : Option String)

/-- What comes of lines that are carried out one after another, whatever comes of each. -/
def outcomes (shop : Shop) : List String → List (Except Fault String)
  | [] => []
  | line :: lines =>
    ((runLine token line).runIn shop).1 :: outcomes ((runLine token line).runIn shop).2 lines

/-- The shop after lines that are carried out one after another. -/
def shopAfter (shop : Shop) (lines : List String) : Shop :=
  lines.foldl (fun shop line => ((runLine token line).runIn shop).2) shop

/-- The failure that an outcome is, in words. -/
def failure? : Except Fault String → Option Report
  | .error (.failure action cause) => some (cause.report action)
  | _ => none

/-- What is printed for a line: the line with its number and, if it succeeds, its answer. -/
def printed (entry : Nat × String) (outcome : Except Fault String) : String :=
  s!"{entry.1}> {entry.2}" ++ "\n" ++
    match outcome with
    | .ok text => text ++ "\n"
    | .error _ => ""

/-- What is printed on the error stream for the failures among outcomes. -/
def complaints (outcomes : List (Except Fault String)) : String :=
  String.join ((outcomes.filterMap failure?).map (failed · ++ "\n"))

/-- What a run says once further outcomes are in. -/
def Run.after (run : Run) (outcomes : List (Except Fault String)) : Run :=
  { run with
    processed := run.processed + outcomes.length
    succeeded := run.succeeded + outcomes.countP Except.isOk
    errors := run.errors ++ outcomes.filterMap failure? }

/-- The console once further lines are carried out. -/
def Console.after (c : Console) (entries : List (Nat × String)) : Console :=
  let lines := entries.map Prod.snd
  { shop := shopAfter token c.shop lines
    out := c.out ++ String.join (entries.zipWith printed (outcomes token c.shop lines))
    err := c.err ++ complaints (outcomes token c.shop lines) }

variable {token}

theorem length_outcomes (shop : Shop) (lines : List String) :
    (outcomes token shop lines).length = lines.length := by
  induction lines generalizing shop with
  | nil => rfl
  | cons line lines ih => exact congrArg (· + 1) (ih _)

/-- An outcome that is told is an answer or is reported. -/
theorem length_of_told {os : List (Except Fault String)} (h : ∀ o ∈ os, Told o) :
    os.length = os.countP Except.isOk + (os.filterMap failure?).length := by
  induction os with
  | nil => rfl
  | cons o os ih =>
      have hrest := ih fun o' ho' => h o' (List.mem_cons_of_mem _ ho')
      cases h o List.mem_cons_self with
      | answer text =>
          rw [List.length_cons, hrest, List.countP_cons_of_pos rfl, List.filterMap_cons_none rfl]
          omega
      | failure action cause =>
          have hreport : failure? (.error (.failure action cause)) = some (cause.report action) :=
            rfl
          rw [List.length_cons, hrest, List.countP_cons_of_neg Bool.false_ne_true,
            List.filterMap_cons_some hreport, List.length_cons]
          omega

theorem Run.after_nil (run : Run) : run.after [] = run := by
  unfold after
  rw [List.filterMap_nil, List.append_nil]
  rfl

theorem Run.after_cons (run : Run) (o : Except Fault String) (os : List (Except Fault String)) :
    run.after (o :: os) = (run.after [o]).after os := by
  have hcons : o :: os = [o] ++ os := rfl
  unfold after
  rw [hcons, List.length_append, List.countP_append, List.filterMap_append, ← Nat.add_assoc,
    ← Nat.add_assoc, ← List.append_assoc]

theorem complaints_cons (o : Except Fault String) (os : List (Except Fault String)) :
    complaints (o :: os) = complaints [o] ++ complaints os := by
  have hcons : o :: os = [o] ++ os := rfl
  unfold complaints
  rw [hcons, List.filterMap_append, List.map_append, String.join_append]

theorem Console.after_nil (c : Console) : c.after token [] = c := by
  change (⟨c.shop, c.out ++ "", c.err ++ ""⟩ : Console) = c
  rw [String.append_empty, String.append_empty]

theorem Console.after_cons (c : Console) (e : Nat × String) (es : List (Nat × String)) :
    c.after token (e :: es) = (c.after token [e]).after token es := by
  have hout (o : Except Fault String) (os : List (Except Fault String)) :
      String.join ((e :: es).zipWith printed (o :: os)) =
        String.join ([e].zipWith printed [o]) ++ String.join (es.zipWith printed os) := by
    rw [← String.join_append]
    rfl
  unfold after
  simp only [List.map_cons, List.map_nil, outcomes, shopAfter, List.foldl_cons, List.foldl_nil]
  rw [hout, complaints_cons, String.append_assoc, String.append_assoc]

/-! ## The file line by line -/

section Sessions

variable {α β : Type} {c : Console}

theorem run_bind (x : Session α) (f : α → Session β) :
    (x >>= f).run c = match x.run c with
      | (.ok a, c') => (f a).run c'
      | (.error e, c') => (.error e, c') := by
  unfold ExceptT.run
  simp only [bind, ExceptT.bind, ExceptT.mk, StateT.bind, ExceptT.bindCont]
  rcases x c with ⟨r, c'⟩
  cases r with
  | ok a => rfl
  | error e => rfl

theorem run_printOut (text : String) :
    (printOut text).run c = (.ok ⟨⟩, { c with out := c.out ++ text ++ "\n" }) := rfl

/-- An attempt hands a failure back in words and passes any other fault on. -/
theorem run_attempt (line : String) :
    (attempt token line).run c =
      (match ((runLine token line).runIn c.shop).1 with
        | .ok text => .ok (.ok text)
        | .error (.failure action cause) => .ok (.error (cause.report action))
        | .error fault => .error fault,
        { c with shop := ((runLine token line).runIn c.shop).2 }) := by
  have hget : (get : Session Console).run c = (.ok c, c) := rfl
  unfold attempt
  rw [run_bind, hget]
  dsimp only
  rcases (runLine token line).runIn c.shop with ⟨o, shop⟩
  match o with
  | .ok text => rfl
  | .error (.failure action cause) => rfl
  | .error (.badRecord fields) => rfl
  | .error (.badValue flaw) => rfl

end Sessions

variable {run : Run} {c : Console} {l : List Char × Nat}

/-- A line that is passed over does nothing. -/
theorem replayLine_skipped (h : isSkipped (Text.trimChars l.1) = true) :
    replayLine token run l = pure run := if_pos h

/-- A line that is carried out is shown with its number, and then its outcome is. -/
theorem run_replayLine (h : ¬ isSkipped (Text.trimChars l.1) = true) :
    (replayLine token run l).run c =
      let line := String.ofList (Text.trimChars l.1)
      let shop := ((runLine token line).runIn c.shop).2
      let out := c.out ++ (s!"{l.2}> {line}" ++ "\n")
      match ((runLine token line).runIn c.shop).1 with
      | .ok text =>
        (.ok { run with processed := run.processed + 1, succeeded := run.succeeded + 1 },
          ⟨shop, out ++ text ++ "\n", c.err⟩)
      | .error (.failure action cause) =>
        (.ok { run with
          processed := run.processed + 1, errors := run.errors ++ [cause.report action] },
          ⟨shop, out, c.err ++ failed (cause.report action) ++ "\n"⟩)
      | .error fault => (.error fault, ⟨shop, out, c.err⟩) := by
  unfold replayLine
  rw [if_neg h]
  dsimp only
  generalize String.ofList (Text.trimChars l.1) = line
  rw [run_bind, run_printOut]
  dsimp only
  rw [run_bind, run_attempt, String.append_assoc]
  dsimp only
  -- The attempt left the shop changed; which branch is next depends on the outcome alone.
  rcases (runLine token line).runIn c.shop with ⟨o, shop⟩
  match o with
  | .ok text => rfl
  | .error (.failure action cause) => rfl
  | .error (.badRecord fields) => rfl
  | .error (.badValue flaw) => rfl

/-- A line with a told outcome is printed, counted and gone on after. -/
theorem run_replayLine_told (h : ¬ isSkipped (Text.trimChars l.1) = true)
    (htold : Told ((runLine token (String.ofList (Text.trimChars l.1))).runIn c.shop).1) :
    (replayLine token run l).run c =
      (.ok (run.after [((runLine token (String.ofList (Text.trimChars l.1))).runIn c.shop).1]),
        c.after token [(l.2, String.ofList (Text.trimChars l.1))]) := by
  have hprinted (e : Nat × String) (o : Except Fault String) :
      String.join ([e].zipWith printed [o]) = printed e o := by
    rw [List.zipWith_cons_cons, List.zipWith_nil_left, String.join_cons, String.join_nil,
      String.append_empty]
  rw [run_replayLine h]
  unfold Console.after Run.after
  simp only [List.map_cons, List.map_nil, outcomes, shopAfter, List.foldl_cons, List.foldl_nil,
    hprinted]
  generalize String.ofList (Text.trimChars l.1) = line at htold
  generalize (runLine token line).runIn c.shop = r at htold
  rcases r with ⟨o, shop⟩
  cases htold with
  | answer text =>
      have hout : c.out ++ printed (l.2, line) (.ok text) =
          c.out ++ (s!"{l.2}> {line}" ++ "\n") ++ text ++ "\n" := by
        rw [String.append_assoc, String.append_assoc]
        rfl
      have herr : c.err ++ complaints [.ok text] = c.err := String.append_empty
      rw [hout, herr]
      dsimp only
      rw [List.filterMap_cons_none rfl, List.filterMap_nil, List.append_nil]
      rfl
  | failure action cause =>
      have hout : c.out ++ printed (l.2, line) (.error (.failure action cause)) =
          c.out ++ (s!"{l.2}> {line}" ++ "\n") := congrArg _ String.append_empty
      have herr : c.err ++ complaints [.error (.failure action cause)] =
          c.err ++ failed (cause.report action) ++ "\n" := by
        have hone : complaints [.error (.failure action cause)] =
            failed (cause.report action) ++ "\n" ++ "" := String.join_cons
        rw [hone, String.append_empty, String.append_assoc]
      rw [hout, herr]
      rfl

/-- A line with any other fault ends the replay behind its number. -/
theorem run_replayLine_escape (run : Run) {fault : Fault}
    (h : ¬ isSkipped (Text.trimChars l.1) = true)
    (ho : ((runLine token (String.ofList (Text.trimChars l.1))).runIn c.shop).1 = .error fault)
    (hescape : ¬ Told (.error fault)) :
    (replayLine token run l).run c =
      (.error fault, c.after token [(l.2, String.ofList (Text.trimChars l.1))]) := by
  have hprinted (e : Nat × String) :
      String.join ([e].zipWith printed [.error fault]) = s!"{e.1}> {e.2}" ++ "\n" := by
    rw [List.zipWith_cons_cons, List.zipWith_nil_left, String.join_cons, String.join_nil,
      String.append_empty]
    exact String.append_empty
  have hcomplaints : complaints [.error fault] = "" := by
    match fault, hescape with
    | .failure action cause, hescape => exact absurd (Told.failure action cause) hescape
    | .badRecord fields, _ => rfl
    | .badValue flaw, _ => rfl
  rw [run_replayLine h]
  unfold Console.after
  simp only [List.map_cons, List.map_nil, outcomes, shopAfter, List.foldl_cons, List.foldl_nil, ho,
    hprinted, hcomplaints, String.append_empty]
  match fault, hescape with
  | .failure action cause, hescape => exact absurd (Told.failure action cause) hescape
  | .badRecord fields, _ => rfl
  | .badValue flaw, _ => rfl

/-- The lines up to a given place, as long as their outcomes are told. -/
theorem foldlM_replayLine (run : Run) (numbered rest : List (List Char × Nat))
    (htold : ∀ o ∈ outcomes token c.shop ((entriesOf numbered).map Prod.snd), Told o) :
    ((numbered ++ rest).foldlM (replayLine token) run).run c =
      (rest.foldlM (replayLine token)
        (run.after (outcomes token c.shop ((entriesOf numbered).map Prod.snd)))).run
        (c.after token (entriesOf numbered)) := by
  -- Each line hands on another run and another console, so both are open in the induction.
  induction numbered generalizing run c with
  | nil =>
      change _ = (rest.foldlM (replayLine token) (run.after [])).run (c.after token [])
      rw [run.after_nil, c.after_nil]
      rfl
  | cons l numbered ih =>
      rw [List.cons_append, List.foldlM_cons, run_bind]
      by_cases hl : isSkipped (Text.trimChars l.1) = true
      · have hentries : entriesOf (l :: numbered) = entriesOf numbered :=
          List.filterMap_cons_none (if_pos hl)
        rw [hentries] at htold
        rw [hentries, replayLine_skipped hl]
        exact ih run htold
      · have hentries : entriesOf (l :: numbered) =
            (l.2, String.ofList (Text.trimChars l.1)) :: entriesOf numbered :=
          List.filterMap_cons_some (if_neg hl)
        rw [hentries, List.map_cons] at htold
        have hlater := @ih
          (c.after token [(l.2, String.ofList (Text.trimChars l.1))])
          (run.after [((runLine token (String.ofList (Text.trimChars l.1))).runIn c.shop).1])
          fun o ho => htold o (List.mem_cons_of_mem _ ho)
        rw [← Run.after_cons, ← c.after_cons _ (entriesOf numbered)] at hlater
        rw [hentries, run_replayLine_told hl (htold _ List.mem_cons_self)]
        exact hlater

/-! ## Whole files -/

/-- A place in the row of lines that are carried out is a place in the file. -/
theorem exists_of_entriesOf {numbered : List (List Char × Nat)} {before after : List (Nat × String)}
    {e : Nat × String} (h : entriesOf numbered = before ++ e :: after) :
    ∃ pre l post, numbered = pre ++ l :: post ∧ entriesOf pre = before ∧
      ¬ isSkipped (Text.trimChars l.1) = true ∧ e = (l.2, String.ofList (Text.trimChars l.1)) := by
  rcases List.filterMap_eq_append_iff.1 h with ⟨pre, rest, rfl, hpre, hrest⟩
  -- Lines that are passed over can stand between the place and the last line before it.
  rcases List.filterMap_eq_cons_iff.1 hrest with ⟨gap, l, post, rfl, hgap, hl, -⟩
  by_cases hskip : isSkipped (Text.trimChars l.1) = true
  · rw [if_pos hskip] at hl
    cases hl
  · rw [if_neg hskip] at hl
    refine ⟨pre ++ gap, l, post, (List.append_assoc ..).symm, ?_, hskip, (Option.some.inj hl).symm⟩
    unfold entriesOf
    rw [List.filterMap_append, hpre, List.filterMap_eq_nil_iff.2 hgap, List.append_nil]

variable {found : Except Files.Trouble (List UInt8)} {lines : List (List Char)} (path : Files.Path)

theorem run_replayFound (h : fileLines found = .ok lines) :
    (replayFound token path found).run c =
      ((lines.zipIdx 1).foldlM (replayLine token) (.fresh path.text)).run c := by
  unfold replayFound
  rw [h]
  rfl

/-- A file whose lines all have told outcomes is carried out to its end. -/
theorem run_replayFound_told (h : fileLines found = .ok lines)
    (htold : ∀ o ∈ outcomes token c.shop ((entries lines).map Prod.snd), Told o) :
    (replayFound token path found).run c =
      (.ok ((Run.fresh path.text).after (outcomes token c.shop ((entries lines).map Prod.snd))),
        c.after token (entries lines)) := by
  have hall := foldlM_replayLine (.fresh path.text) (lines.zipIdx 1) [] htold
  rw [List.append_nil] at hall
  exact (run_replayFound path h).trans hall

/-- A file is carried out up to the first line whose outcome is not told, and no further. -/
theorem run_replayFound_escape {before after : List (Nat × String)} {e : Nat × String}
    {fault : Fault} (h : fileLines found = .ok lines) (hplace : entries lines = before ++ e :: after)
    (htold : ∀ o ∈ outcomes token c.shop (before.map Prod.snd), Told o)
    (ho : ((runLine token e.2).runIn (shopAfter token c.shop (before.map Prod.snd))).1 =
      .error fault) (hescape : ¬ Told (.error fault)) :
    (replayFound token path found).run c = (.error fault, c.after token (before ++ [e])) := by
  rcases exists_of_entriesOf hplace with ⟨pre, l, post, hlines, rfl, hskip, rfl⟩
  have hbefore := foldlM_replayLine (.fresh path.text) pre (l :: post) htold
  have hline := run_replayLine_escape ((Run.fresh path.text).after
    (outcomes token c.shop ((entriesOf pre).map Prod.snd))) (c := c.after token (entriesOf pre))
    hskip ho hescape
  have hconsole (es : List (Nat × String)) (c : Console) (e : Nat × String) :
      (c.after token es).after token [e] = c.after token (es ++ [e]) := by
    induction es generalizing c with
    | nil => rw [c.after_nil, List.nil_append]
    | cons e' es ih => rw [c.after_cons, ih, List.cons_append, c.after_cons _ (es ++ [e])]
  rw [run_replayFound path h, hlines, hbefore, List.foldlM_cons, run_bind, hline, hconsole]

/-- The lines of a file are those of the text that its bytes write. -/
theorem fileLines_eq_ok {bytes : List UInt8} {text : String}
    (h : bytes.toByteArray = text.toByteArray) :
    fileLines (.ok bytes) = .ok (Text.splitLines text.toList) := by
  have hpages : Utf8.decodePages pageSize bytes = .ok text.toList := by
    rw [Utf8.decodePages_eq_ok_iff, String.ofList_toList, h]
  unfold fileLines
  dsimp only
  rw [hpages]

/-- An empty line at the end is passed over, so it makes no difference. -/
theorem entries_append_nil (lines : List (List Char)) : entries (lines ++ [[]]) = entries lines := by
  unfold entries entriesOf
  rw [List.zipIdx_append, List.filterMap_append]
  exact List.append_nil _

/-- What is carried out of a text depends on the lines that were written, not on how they were. -/
theorem entries_splitLines {nl : Text.Newline} {lines : List (List Char)} {text : List Char}
    (h : Text.Writes nl lines text) (hlines : ∀ line ∈ lines, Text.IsLine line) :
    entries (Text.splitLines text) = entries lines := by
  rcases h.splitLines hlines with hsame | hopen
  · rw [hsame]
  · rw [← hopen, entries_append_nil]

theorem run_replayAt {path : String}
    (h : Char.ofNat 0 ∉ (Files.Path.ofText path).text.toList) :
    (replayAt token path found).run c = (replayFound token (.ofText path) found).run c := by
  unfold replayAt
  dsimp only
  rw [if_neg (by rwa [List.contains_iff_mem])]

/-- Lines lead from a reachable shop to reachable ones. -/
theorem reachable_shopAfter {shop : Shop} (h : Shop.Reachable shop) (lines : List String) :
    Shop.Reachable (shopAfter token shop lines) := by
  induction lines generalizing shop with
  | nil => exact h
  | cons line lines ih =>
      have hnext : Shop.Reachable ((runLine token line).runIn shop).2 := by
        rcases @runLine_shop shop token line with hsame | ⟨op, -, hrun⟩
        · rwa [hsame]
        · rw [hrun]
          exact h.call token op
      exact ih hnext

/-- A fault that is no failure means that a number was too long. -/
theorem long_of_escape {shop : Shop} (h : Shop.Reachable shop) {line : String} {fault : Fault}
    (ho : ((runLine token line).runIn shop).1 = .error fault) (hescape : ¬ Told (.error fault)) :
    fault = .badValue .longNumber := by
  rcases fault_of_line h ho with hsayable | hlong
  · rcases hsayable with ⟨action, -, -⟩
    exact absurd (Told.failure action _) hescape
  · exact hlong

/-- Carrying out a file is carrying out its lines. A file holds lines in UTF-8, with any newlines
    between them or behind them. If no line ends in anything but an answer or a failure, the file is
    carried out to its end: the shop is the one that the lines lead to, the failures are theirs in
    their order, and what is printed is each line with its number in the file and, below it, its
    answer or its failure. Otherwise all of this holds up to the first line with another fault, which
    in a reachable shop is a number that is too long, and the replay ends there in that fault. The
    newlines leave no trace in any of it. -/
theorem file_is_its_lines {path text : String} {bytes : List UInt8} {nl : Text.Newline}
    {lines : List String} (hpath : Char.ofNat 0 ∉ (Files.Path.ofText path).text.toList)
    (hbytes : bytes.toByteArray = text.toByteArray)
    (hlines : ∀ line ∈ lines, Text.IsLine line.toList)
    (hwritten : Text.Writes nl (lines.map String.toList) text.toList)
    (token : Option String) (c : Console) :
    let carried := entries (lines.map String.toList)
    let os := outcomes token c.shop (carried.map Prod.snd)
    ((∀ o ∈ os, Told o) →
      (replayAt token path (.ok bytes)).run c =
        (.ok
          { path := (Files.Path.ofText path).text
            processed := carried.length
            succeeded := os.countP Except.isOk
            errors := os.filterMap failure?
            ioError := none },
          { shop := shopAfter token c.shop (carried.map Prod.snd)
            out := c.out ++ String.join (carried.zipWith printed os)
            err := c.err ++ complaints os }) ∧
      carried.length = os.countP Except.isOk + (os.filterMap failure?).length) ∧
    ∀ before e after fault, carried = before ++ e :: after →
      (∀ o ∈ outcomes token c.shop (before.map Prod.snd), Told o) →
      ((runLine token e.2).runIn (shopAfter token c.shop (before.map Prod.snd))).1 = .error fault →
      ¬ Told (.error fault) →
      (Shop.Reachable c.shop → fault = .badValue .longNumber) ∧
        (replayAt token path (.ok bytes)).run c = (.error fault, c.after token (before ++ [e])) := by
  intro carried os
  have hchars : ∀ line ∈ lines.map String.toList, Text.IsLine line := by
    intro line hline
    rcases List.mem_map.1 hline with ⟨s, hs, rfl⟩
    exact hlines s hs
  -- How the lines were written is left behind here: only `carried` depends on the text.
  have hread := fileLines_eq_ok hbytes
  have hcarried : entries (Text.splitLines text.toList) = carried :=
    entries_splitLines hwritten hchars
  have hlength : os.length = carried.length := by
    rw [length_outcomes, List.length_map]
  rw [run_replayAt hpath]
  refine ⟨fun htold => ⟨?_, ?_⟩, fun before e after fault hplace htold ho hescape => ?_⟩
  · have htold' : ∀ o ∈ outcomes token c.shop
        ((entries (Text.splitLines text.toList)).map Prod.snd), Told o := by
      rw [hcarried]
      exact htold
    have hrun := run_replayFound_told (.ofText path) hread htold'
    rw [hcarried] at hrun
    rw [hrun, ← hlength]
    unfold Run.after Run.fresh
    rw [Nat.zero_add, Nat.zero_add, List.nil_append]
    rfl
  · rw [← hlength]
    exact length_of_told htold
  · exact ⟨fun h => long_of_escape (reachable_shopAfter h _) ho hescape,
      run_replayFound_escape _ hread (hcarried.trans hplace) htold ho hescape⟩

/-- Three lines are carried out of a file with five, under the numbers that they have there, and the
    line that fails is told between the others. -/
theorem replay_of_opening :
    let text := "# The opening\r\n\r\n  define basket b \r\nshow basket c\r\nshow basket b"
    ∃ report shop,
      (replayAt (some "key") "/srv/day.script" (.ok (Utf8.encode text.toList))).run (.fresh .empty) =
        (.ok ⟨"/srv/day.script", 3, 2, [report], none⟩,
          ⟨shop, "3> define basket b\nBasket b provisioned\n4> show basket c\n5> show basket b\n" ++
              "Basket b customer=- store=- items=[empty]\n",
            "Failed: Show Basket: Basket Does Not Exist: c\n"⟩) := by
  intro text
  let lines := ["# The opening", "", "  define basket b ", "show basket c", "show basket b"]
  have hlines : ∀ line ∈ lines, Text.IsLine line.toList := by
    unfold Text.IsLine
    decide +kernel
  have hwritten : Text.Writes .returnAndFeed (lines.map String.toList) text.toList := by
    have htext : text.toList =
        Text.Newline.returnAndFeed.chars.intercalate (lines.map String.toList) := by decide +kernel
    rw [htext]
    exact Text.writes_joined _ _
  have hpath : Char.ofNat 0 ∉ (Files.Path.ofText "/srv/day.script").text.toList := by decide +kernel
  have hrun := (file_is_its_lines hpath (Utf8.encode_toList text) hlines hwritten (some "key")
    (.fresh .empty)).1
  have hos : outcomes (some "key") .empty ((entries (lines.map String.toList)).map Prod.snd) =
      [.ok "Basket b provisioned", .error (.failure "Show Basket" (.absent .basket "c")),
        .ok "Basket b customer=- store=- items=[empty]"] := by decide +kernel
  have htold : ∀ o ∈ outcomes (some "key") .empty
      ((entries (lines.map String.toList)).map Prod.snd), Told o := by
    rw [hos]
    simp [Told.answer, Told.failure]
  rw [(hrun htold).1]
  exact ⟨(Cause.absent .basket "c").report "Show Basket",
    shopAfter (some "key") .empty ["define basket b"],
    Prod.ext (by decide +kernel) (by decide +kernel)⟩

/-- Not every file is carried out to its end. The first of two lines cannot be answered, and the
    second is not reached. -/
theorem replay_stopped :
    ¬ ∀ shop, Shop.Reachable shop → ∀ (path text : String)
      (bytes : List UInt8) (lines : List String),
      Char.ofNat 0 ∉ (Files.Path.ofText path).text.toList →
      bytes.toByteArray = text.toByteArray →
      (∀ line ∈ lines, Text.IsLine line.toList) →
      Text.Writes .lineFeed (lines.map String.toList) text.toList →
      ∃ run, ((replayAt (some "key") path (.ok bytes)).run (.fresh shop)).1 = .ok run ∧
        ((replayAt (some "key") path (.ok bytes)).run (.fresh shop)).2.shop =
          shopAfter (some "key") shop ((entries (lines.map String.toList)).map Prod.snd) := by
  intro hall
  let lines := ["show basket b", "define basket b2"]
  have hlines : ∀ line ∈ lines, Text.IsLine line.toList := by
    unfold Text.IsLine
    decide +kernel
  let text := "show basket b\ndefine basket b2\n"
  have hwritten : Text.Writes .lineFeed (lines.map String.toList) text.toList := by
    have htext : text.toList =
        (lines.map String.toList).flatMap (· ++ Text.Newline.lineFeed.chars) := by decide +kernel
    rw [htext]
    exact Text.writes_closed _ _
  have hpath : Char.ofNat 0 ∉ (Files.Path.ofText "/srv/day.script").text.toList := by decide +kernel
  rcases hall hoarded scripted_hoarded.reachable "/srv/day.script" text _ lines hpath
    (Utf8.encode_toList text) hlines hwritten with ⟨run, hrun, -⟩
  have hstop : ((replayAt (some "key") "/srv/day.script" (.ok (Utf8.encode text.toList))).run
      (.fresh hoarded)).1 = .error (.badValue .longNumber) := by decide +kernel
  rw [hstop] at hrun
  cases hrun

end Script

end Shopfloor
