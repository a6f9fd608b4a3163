import Shopfloor.Proofs.Script.ReplayEnd
/-!
# Without a Token

Nothing can be done with lines by somebody who holds no token, and nothing can
be found out.

A line is read before the shop is asked, and the shop looks at the token before
it looks at anything else. So without a token there are two ways in which a line
can end, and the line alone decides between them: it does not read as a command,
or it does and the token is missing. `refusalOf` is that fault. It is a function
of the line, and this is what keeps the shop a secret: whoever asks is told the
same of every shop.

Lines come in three ways. One can be attempted, which hands its failure back; it
can be spoken, which prints what came of it; or it can stand in a file. An
`Order` is any of the three, and an order that is `Vain` has brought about
nothing but refusals. A run of orders is followed with what it has printed so
far, which is all that it adds to a console.

## Main definitions

* `Script.refusalOf`: The fault that a line ends in without a token.
* `Script.Rebuff`: A failure of a line that was not carried out.
* `Script.Order`, `Script.obey`, `Script.obeyAll`: What can be asked for with lines, and what comes
  of it.
* `Script.Vain`: An outcome in which no line has succeeded.

## Theorems

* `Script.runLine_barred`: A line without a token.
* `Script.outcomes_barred`, `Script.replay_barred`: Lines one after another, and in a file.
* `Script.obey_barred`: One order.
* `Script.inert_without_token`: Orders one after another.
-/

namespace Shopfloor

namespace Script

/-- The fault that a line ends in without a token: it does not read as a command, or it does and the
    token is missing. -/
def refusalOf (line : String) : Fault :=
  match Statement.read line with
  | .error fault => fault
  | .ok s => .failure s.operation.action .tokenMissing

/-- The failure of a line that was not carried out, in words. -/
inductive Rebuff : Report → Prop
  | unreadable (line : String) (flaw : LineFlaw) : Rebuff (.ofLine flaw.text line)
  | tokenMissing (action : String) : Rebuff (.plain .invalidArgument action "Token Missing")

/-- What can be asked for with lines. -/
inductive Order
  /-- A line whose failure is handed back. -/
  | attempt (line : String)
  /-- A line of which it is printed what came of it. -/
  | speak (line : String)
  /-- The lines of a file, given what was found at the end of its path. -/
  | file (path : String) (found : Except Files.Trouble (List UInt8))

/-- What comes of an order. -/
inductive Outcome
  | attempted (result : Except Fault (Except Report String))
  | spoken (result : Except Fault Bool)
  | replayed (result : Except Fault Run)

/-- Obeys an order: what comes of it, and the console afterwards. -/
def obey (token : Option String) (order : Order) (c : Console) : Outcome × Console :=
  match order with
  | .attempt line => ((attempt token line).run c).map .attempted id
  | .speak line => ((execute token line).run c).map .spoken id
  | .file path found => ((replayAt token path found).run c).map .replayed id

/-- Obeys orders one after another, whatever comes of each. -/
def obeyAll (token : Option String) : List Order → Console → List Outcome × Console
  | [], c => ([], c)
  | order :: orders, c =>
    let later := obeyAll token orders (obey token order c).2
    ((obey token order c).1 :: later.1, later.2)

/-- An outcome in which no line has succeeded: every line that came up was refused, and a path that
    is none has led nowhere. -/
inductive Vain : Outcome → Prop
  | attempted {report : Report} (h : Rebuff report) : Vain (.attempted (.ok (.error report)))
  | spoken : Vain (.spoken (.ok false))
  | replayed {run : Run} (hnone : run.succeeded = 0) (hall : run.processed = run.errors.length)
    (h : ∀ report ∈ run.errors, Rebuff report) : Vain (.replayed (.ok run))
  | noPath : Vain (.replayed (.error (.badValue .nullInside)))

variable {token : Option String}

/-! ## Lines -/

/-- The fault is a failure of one of two kinds, which has words. -/
theorem exists_rebuff (line : String) :
    ∃ action cause, refusalOf line = .failure action cause ∧ Rebuff (cause.report action) := by
  unfold refusalOf
  cases hread : Statement.read line with
  | error fault =>
      rcases (read_reads line).error fault hread with ⟨l, flaw, rfl⟩
      exact ⟨_, _, rfl, .unreadable l flaw⟩
  | ok s => exact ⟨_, _, rfl, .tokenMissing _⟩

theorem told_refusal (line : String) : Told (.error (refusalOf line)) := by
  rcases exists_rebuff line with ⟨action, cause, hrefusal, -⟩
  rw [hrefusal]
  exact .failure action cause

/-- A run in which every line was refused has brought about nothing else. -/
theorem vain_refused (path : String) (lines : List String) :
    Vain (.replayed (.ok ((Run.fresh path).after
      (lines.map fun line => .error (refusalOf line))))) := by
  have htold : ∀ o ∈ lines.map (fun line => (.error (refusalOf line) : Except Fault String)),
      Told o := by
    intro o ho
    rcases List.mem_map.1 ho with ⟨line, -, rfl⟩
    exact told_refusal line
  have hnone : (lines.map fun line => (.error (refusalOf line) : Except Fault String)).countP
      Except.isOk = 0 := by
    rw [List.countP_map]
    exact List.countP_eq_zero.2 fun line _ => Bool.false_ne_true
  have hcount := length_of_told htold
  unfold Run.after Run.fresh
  refine .replayed ?_ ?_ fun report hreport => ?_
  · dsimp only
    rw [hnone]
  · dsimp only
    rw [List.nil_append]
    omega
  · dsimp only at hreport
    rw [List.nil_append] at hreport
    rcases List.mem_filterMap.1 hreport with ⟨o, ho, hfailure⟩
    rcases List.mem_map.1 ho with ⟨line, -, rfl⟩
    rcases exists_rebuff line with ⟨action, cause, hrefusal, hrebuff⟩
    rw [hrefusal] at hfailure
    cases hfailure
    exact hrebuff

/-- Whoever shows nothing but blanks shows no token. -/
theorem isToken_of_blank (h : ∀ t, token = some t → ∀ c ∈ t.toList, Text.isBlank c = true) :
    Shop.isToken token = false := by
  cases token with
  | none => rfl
  | some t =>
      unfold Shop.isToken Text.isBlankText
      rw [Bool.not_eq_false']
      exact List.all_eq_true.2 (h t rfl)

section Barred

variable (htoken : Shop.isToken token = false)
include htoken

/-- Without a token a line ends in its own refusal, in any shop, and leaves the shop alone. -/
theorem runLine_barred (line : String) (shop : Shop) :
    (runLine token line).runIn shop = (.error (refusalOf line), shop) := by
  rw [runIn_runLine]
  unfold refusalOf
  cases Statement.read line with
  | error fault => rfl
  | ok s =>
      dsimp only
      rw [Shop.run_of_not_isToken htoken]

theorem outcomes_barred (shop : Shop) (lines : List String) :
    outcomes token shop lines = lines.map fun line => .error (refusalOf line) := by
  induction lines with
  | nil => rfl
  | cons line lines ih =>
      unfold outcomes
      rw [runLine_barred htoken, List.map_cons]
      exact congrArg _ ih

theorem shopAfter_barred (shop : Shop) (lines : List String) :
    shopAfter token shop lines = shop := by
  induction lines with
  | nil => rfl
  | cons line lines ih =>
      have hcons : shopAfter token shop (line :: lines) =
          shopAfter token ((runLine token line).runIn shop).2 lines := rfl
      rw [hcons, runLine_barred htoken]
      exact ih

/-- An attempt hands the refusal back. -/
theorem attempt_barred (line : String) :
    ∃ report, Rebuff report ∧
      ∀ c : Console, (attempt token line).run c = (.ok (.error report), c) := by
  rcases exists_rebuff line with ⟨action, cause, hrefusal, hrebuff⟩
  refine ⟨cause.report action, hrebuff, fun c => ?_⟩
  rw [run_attempt, runLine_barred htoken, hrefusal]

/-- A spoken line prints the refusal and nothing else. -/
theorem execute_barred (line : String) :
    ∃ err, ∀ c : Console,
      (execute token line).run c = (.ok false, { c with err := c.err ++ err }) := by
  rcases attempt_barred htoken line with ⟨report, -, hrun⟩
  refine ⟨failed report ++ "\n", fun c => ?_⟩
  unfold execute
  rw [run_bind, hrun, ← String.append_assoc]
  rfl

/-! ## Files -/

/-- Carrying out a file comes to the same at every console: its lines are shown and refused. -/
theorem replay_barred (path : String) (found : Except Files.Trouble (List UInt8)) :
    ∃ result out err, Vain (.replayed result) ∧ ∀ c : Console,
      (replayAt token path found).run c = (result, ⟨c.shop, c.out ++ out, c.err ++ err⟩) := by
  by_cases hnull : Char.ofNat 0 ∈ (Files.Path.ofText path).text.toList
  · refine ⟨_, "", "", .noPath, fun c => ?_⟩
    unfold replayAt
    dsimp only
    rw [if_pos (List.contains_iff_mem.2 hnull), String.append_empty, String.append_empty]
    rfl
  by_cases hreadable : Readable found
  · rcases readable_iff.1 hreadable with ⟨lines, hlines⟩
    -- Every line has an outcome that is told, so none of them stops the file.
    let es := entries lines
    let os : List (Except Fault String) :=
      (es.map Prod.snd).map fun line => .error (refusalOf line)
    refine ⟨_, String.join (es.zipWith printed os), complaints os,
      vain_refused (Files.Path.ofText path).text (es.map Prod.snd), fun c => ?_⟩
    have hos : outcomes token c.shop (es.map Prod.snd) = os := outcomes_barred htoken _ _
    have hall : ∀ o ∈ outcomes token c.shop (es.map Prod.snd), Told o := by
      intro o ho
      rw [hos] at ho
      rcases List.mem_map.1 ho with ⟨line, -, rfl⟩
      exact told_refusal line
    have hrun := run_replayFound_told (.ofText path) hlines hall
    unfold Console.after at hrun
    dsimp only at hrun
    rw [hos, shopAfter_barred htoken] at hrun
    rw [run_replayAt hnull, hrun]
  · -- What cannot be read is reported without a line, and the reason lies in what was found.
    cases hwhy : fileLines found with
    | ok lines => exact absurd (readable_iff.2 ⟨lines, hwhy⟩) hreadable
    | error why =>
        let text := (Files.Path.ofText path).text
        let run := { Run.fresh text with ioError := some (.ofFile why.errorName text) }
        have hvain : Vain (.replayed (.ok run)) :=
          .replayed rfl rfl fun _ h => absurd h List.not_mem_nil
        refine ⟨.ok run, "", failed (.ofFile why.errorName text) ++ s!" ({why.text})" ++ "\n", hvain,
          fun c => ?_⟩
        rcases run_replayFound_unreadable (.ofText path) hreadable with ⟨why', hwhy', hrun⟩
        rw [hwhy, Except.error.injEq] at hwhy'
        subst hwhy'
        rw [run_replayAt hnull, hrun, String.append_empty, String.append_assoc]

/-! ## Orders -/

/-- An order is in vain, and it comes to the same at every console. -/
theorem obey_barred (order : Order) :
    ∃ outcome out err, Vain outcome ∧ ∀ c,
      obey token order c = (outcome, ⟨c.shop, c.out ++ out, c.err ++ err⟩) := by
  cases order with
  | attempt line =>
      rcases attempt_barred htoken line with ⟨report, hrebuff, hrun⟩
      refine ⟨_, "", "", .attempted hrebuff, fun c => ?_⟩
      unfold obey
      dsimp only
      rw [hrun, String.append_empty, String.append_empty]
      rfl
  | speak line =>
      rcases execute_barred htoken line with ⟨err, hrun⟩
      refine ⟨_, "", err, .spoken, fun c => ?_⟩
      unfold obey
      dsimp only
      rw [hrun, String.append_empty]
      rfl
  | file path found =>
      rcases replay_barred htoken path found with ⟨result, out, err, hvain, hrun⟩
      refine ⟨_, out, err, hvain, fun c => ?_⟩
      unfold obey
      dsimp only
      rw [hrun]
      rfl

end Barred

/-- Without a token nothing comes of lines and files, whatever they say. If there is no token, or one
    of nothing but blanks, every line is refused, because it does not read as a command or because
    the token is missing, and the shop stays as it is, with its log. Moreover, the outcomes and all
    that is printed can be told from the orders alone: in every shop and after anything printed
    before they are the same, so they reveal nothing. -/
theorem inert_without_token
    (htoken : ∀ t, token = some t → ∀ c ∈ t.toList, Text.isBlank c = true) (orders : List Order) :
    ∃ outcomes out err, outcomes.length = orders.length ∧ (∀ o ∈ outcomes, Vain o) ∧
      ∀ c, obeyAll token orders c = (outcomes, ⟨c.shop, c.out ++ out, c.err ++ err⟩) := by
  have hbarred := isToken_of_blank htoken
  induction orders with
  | nil =>
      refine ⟨[], "", "", rfl, nofun, fun c => ?_⟩
      rw [String.append_empty, String.append_empty]
      rfl
  | cons order orders ih =>
      rcases obey_barred hbarred order with ⟨o, out, err, hvain, hrun⟩
      rcases ih with ⟨os, out', err', hlength, hvains, hlater⟩
      refine ⟨o :: os, out ++ out', err ++ err', congrArg (· + 1) hlength,
        List.forall_mem_cons.2 ⟨hvain, hvains⟩, fun c => ?_⟩
      unfold obeyAll
      dsimp only
      rw [hrun, hlater, String.append_assoc, String.append_assoc]

/-- Two blanks of other scripts are no token. Whoever shows them learns nothing of a basket by asking
    for it, by speaking or by a file, whether there is one or not. -/
theorem asked_with_blanks :
    let token := some "\u2003\u3000"
    let day := "show basket b1\nclear_basket b1\nclear it"
    let orders : List Order := [.attempt "show basket b1", .speak "show basket b1",
      .file "day.script" (.ok (Utf8.encode day.toList))]
    let shop := Shop.runAll .empty Shop.morning
    (∀ t, token = some t → ∀ c ∈ t.toList, Text.isBlank c = true) ∧
      (obeyAll token orders (.fresh shop)).2.shop = shop ∧
      (obeyAll token orders (.fresh shop)).1 = (obeyAll token orders (.fresh .empty)).1 ∧
      (obeyAll token orders (.fresh shop)).2.out =
        "1> show basket b1\n2> clear_basket b1\n3> clear it\n" := by
  intro token day orders shop
  have htoken : ∀ t, token = some t → ∀ c ∈ t.toList, Text.isBlank c = true := by
    intro t ht c hc
    have hchars : "\u2003\u3000" = String.ofList ['\u2003', '\u3000'] := rfl
    rw [← Option.some.inj ht, hchars, String.toList_ofList, List.mem_cons, List.mem_singleton] at hc
    rcases hc with rfl | rfl
    · decide
    · decide
  rcases inert_without_token htoken orders with ⟨outcomes, out, err, -, -, hall⟩
  -- The shop itself plays no part in this.
  have hwhole (s : Shop) : obeyAll token orders (.fresh s) = (outcomes, ⟨s, "" ++ out, "" ++ err⟩) :=
    hall (.fresh s)
  have hout : (obeyAll token orders (.fresh .empty)).2.out =
      "1> show basket b1\n2> clear_basket b1\n3> clear it\n" := by decide +kernel
  rw [hwhole] at hout
  simp only [hwhole]
  exact ⟨htoken, trivial, trivial, hout⟩

end Script

end Shopfloor
