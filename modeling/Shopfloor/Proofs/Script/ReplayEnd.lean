import Shopfloor.Proofs.Script.Replay
/-!
# How Replays End

A replay comes back with a report, whatever lies at the end of the path, with
two exceptions: the path is none, or a line of the file stops it.

What lies there is read before anything is done. It can be read if it is a file
and its bytes are those of a text; anything else is reported in the run and on
the error stream, and neither the shop nor the output is touched. Once it is
read, its lines are carried out, and either all of them have told outcomes or
there is a first one that has not. In a reachable shop, that one had to name a
number that is too long.

## Main definitions

* `Script.Readable`: What was found at the end of a path can be read.

## Theorems

* `Script.told_or_escape`: All lines are told, or there is a first one that is not.
* `Script.run_replayFound_unreadable`: What cannot be read is reported.
* `Script.replay_ends`: How a replay ends.
* `Script.path_escapes`: A path that is none.
-/

namespace Shopfloor

namespace Script

/-- What was found at the end of a path can be read: it is a file with a text in it. -/
def Readable (found : Except Files.Trouble (List UInt8)) : Prop :=
  ∃ bytes, found = .ok bytes ∧ bytes.toByteArray.IsValidUTF8

variable {token : Option String} {c : Console} {found : Except Files.Trouble (List UInt8)}

/-- Lines are cut exactly from what can be read. -/
theorem readable_iff : Readable found ↔ ∃ lines, fileLines found = .ok lines := by
  cases found with
  | error trouble =>
      constructor
      · rintro ⟨bytes, hbytes, -⟩
        cases hbytes
      · rintro ⟨lines, hlines⟩
        cases hlines
  | ok bytes =>
      have hvalid : Readable (.ok bytes) ↔ bytes.toByteArray.IsValidUTF8 := by
        constructor
        · rintro ⟨_, hbytes, h⟩
          cases hbytes
          exact h
        · exact fun h => ⟨bytes, rfl, h⟩
      rw [hvalid, ← not_iff_not, ← @Utf8.exists_flaw_iff pageSize]
      unfold fileLines
      dsimp only
      cases Utf8.decodePages pageSize bytes with
      | ok text => simp
      | error flaw => simp

/-! ## What stops a replay -/

/-- All lines have told outcomes, or there is a first one that has not. -/
theorem told_or_escape (token : Option String) (shop : Shop) (es : List (Nat × String)) :
    (∀ o ∈ outcomes token shop (es.map Prod.snd), Told o) ∨
      ∃ before e after fault, es = before ++ e :: after ∧
        (∀ o ∈ outcomes token shop (before.map Prod.snd), Told o) ∧
        ((runLine token e.2).runIn (shopAfter token shop (before.map Prod.snd))).1 = .error fault ∧
        ¬ Told (.error fault) := by
  induction es generalizing shop with
  | nil => exact .inl fun o ho => absurd ho List.not_mem_nil
  | cons e es ih =>
      by_cases htold : Told ((runLine token e.2).runIn shop).1
      · rcases ih ((runLine token e.2).runIn shop).2 with hrest | ⟨before, e', after, fault, h⟩
        · exact .inl (List.forall_mem_cons.2 ⟨htold, hrest⟩)
        · rcases h with ⟨rfl, hbefore, hfault, hescape⟩
          exact .inr ⟨e :: before, e', after, fault, rfl,
            List.forall_mem_cons.2 ⟨htold, hbefore⟩, hfault, hescape⟩
      · -- An answer is told, so this is a fault.
        cases ho : ((runLine token e.2).runIn shop).1 with
        | ok text => exact absurd (ho ▸ Told.answer text) htold
        | error fault =>
            rw [ho] at htold
            exact .inr ⟨[], e, es, fault, rfl, fun o ho => absurd ho List.not_mem_nil, ho, htold⟩

/-! ## Whole replays -/

/-- What cannot be read is reported, and nothing else is done. -/
theorem run_replayFound_unreadable (path : Files.Path) (h : ¬ Readable found) :
    ∃ why : Unreadable, fileLines found = .error why ∧
      (replayFound token path found).run c =
        (.ok { Run.fresh path.text with ioError := some (.ofFile why.errorName path.text) },
          { c with err := c.err ++
            (failed (.ofFile why.errorName path.text) ++ s!" ({why.text})") ++ "\n" }) := by
  rw [readable_iff] at h
  cases hlines : fileLines found with
  | ok lines => exact absurd ⟨lines, hlines⟩ h
  | error why =>
      refine ⟨why, rfl, ?_⟩
      unfold replayFound
      rw [hlines]
      rfl

/-- How a replay ends. A path with a null character is none, and the replay fails on it at once.
    Behind any other path there is something that can be read or not. If not, the run says so, a
    diagnostic is printed on the error stream, no line is processed and the shop is what it was. If
    so, the run says nothing of the kind, unless there is a first line whose outcome is not told and
    the replay stops there, which in a reachable shop can only be because a number is too long. -/
theorem replay_ends (token : Option String) (path : String)
    (found : Except Files.Trouble (List UInt8)) (c : Console) :
    let text := (Files.Path.ofText path).text
    (Char.ofNat 0 ∈ text.toList →
      (replayAt token path found).run c = (.error (.badValue .nullInside), c)) ∧
    (Char.ofNat 0 ∉ text.toList → ¬ Readable found →
      ∃ why : Unreadable, fileLines found = .error why ∧
        (replayAt token path found).run c =
          (.ok { Run.fresh text with ioError := some (.ofFile why.errorName text) },
            { c with err := c.err ++
              (failed (.ofFile why.errorName text) ++ s!" ({why.text})") ++ "\n" })) ∧
    (Char.ofNat 0 ∉ text.toList → Readable found →
      ∃ lines, fileLines found = .ok lines ∧
        ((∃ run, ((replayAt token path found).run c).1 = .ok run ∧ run.ioError = none ∧
            run.processed = (entries lines).length) ∨
          ∃ before e after fault, entries lines = before ++ e :: after ∧
            (∀ o ∈ outcomes token c.shop (before.map Prod.snd), Told o) ∧
            ((runLine token e.2).runIn (shopAfter token c.shop (before.map Prod.snd))).1 =
              .error fault ∧
            (Shop.Reachable c.shop → fault = .badValue .longNumber) ∧
            (replayAt token path found).run c = (.error fault, c.after token (before ++ [e])))) := by
  intro text
  refine ⟨fun hnull => ?_, fun hnull hfound => ?_, fun hnull hfound => ?_⟩
  · unfold replayAt
    dsimp only
    rw [if_pos (List.contains_iff_mem.2 hnull)]
    rfl
  · rw [run_replayAt hnull]
    exact run_replayFound_unreadable _ hfound
  · rcases readable_iff.1 hfound with ⟨lines, hlines⟩
    refine ⟨lines, hlines, ?_⟩
    rw [run_replayAt hnull]
    rcases told_or_escape token c.shop (entries lines) with htold | hescape
    · have hrun := run_replayFound_told (.ofText path) hlines htold
      refine .inl ⟨_, congrArg Prod.fst hrun, rfl, ?_⟩
      change 0 + (outcomes token c.shop ((entries lines).map Prod.snd)).length = _
      rw [Nat.zero_add, length_outcomes, List.length_map]
    · rcases hescape with ⟨before, e, after, fault, hplace, htold, ho, hescape⟩
      have hrun := run_replayFound_escape (.ofText path) hlines hplace htold ho hescape
      exact .inr ⟨before, e, after, fault, hplace, htold, ho,
        fun h => long_of_escape (reachable_shopAfter h _) ho hescape, hrun⟩

/-- A file that is not there, one that must not be read and one with a byte too many are reported
    alike. -/
theorem reported_without_lines :
    let broken := Utf8.encode "define basket b".toList ++ [255]
    let reported (errorName text : String) (found : Except Files.Trouble (List UInt8)) :=
      (replayAt (some "key") "/srv/day.script" found).run (.fresh .empty) =
        (.ok { Run.fresh "/srv/day.script" with
          ioError := some (.ofFile errorName "/srv/day.script") },
          ⟨.empty, "", s!"Failed: Process Command File: {errorName}: /srv/day.script ({text})\n"⟩)
    reported "FileNotFoundError" "No such file or directory" (.error .missing) ∧
      reported "PermissionError" "Permission denied"
        (.error (.other "PermissionError" "Permission denied")) ∧
      reported "UnicodeDecodeError" "invalid start byte at byte 15" (.ok broken) := by
  intro broken reported
  have hends (found : Except Files.Trouble (List UInt8)) {errorName text : String}
      (hwhy : fileLines found = .error ⟨errorName, text⟩)
      (hshown : "" ++ (failed (.ofFile errorName "/srv/day.script") ++ s!" ({text})") ++ "\n" =
        s!"Failed: Process Command File: {errorName}: /srv/day.script ({text})\n") :
      reported errorName text found := by
    have hunreadable : ¬ Readable found := fun h => by
      rcases readable_iff.1 h with ⟨lines, hlines⟩
      rw [hwhy] at hlines
      cases hlines
    rcases (replay_ends (some "key") "/srv/day.script" found (.fresh .empty)).2.1 (by decide +kernel)
      hunreadable with ⟨why, hwhy', hrun⟩
    rw [hwhy] at hwhy'
    cases hwhy'
    have hpath : (Files.Path.ofText "/srv/day.script").text = "/srv/day.script" := by decide +kernel
    rw [hpath] at hrun
    dsimp only [reported]
    rw [hrun, ← hshown]
    rfl
  exact ⟨hends _ rfl (by decide +kernel), hends _ rfl (by decide +kernel),
    hends _ (by decide +kernel) (by decide +kernel)⟩

/-- A replay does not come back with a report of a path that is none. -/
theorem path_escapes :
    ¬ ∀ (token : Option String) (path : String) (found : Except Files.Trouble (List UInt8))
      (c : Console), ∃ run, ((replayAt token path found).run c).1 = .ok run := by
  intro hall
  rcases hall (some "key") "a\x00b" (.error .missing) (.fresh .empty) with ⟨run, hrun⟩
  have hescape : ((replayAt (some "key") "a\x00b" (.error .missing)).run (.fresh .empty)).1 =
      .error (.badValue .nullInside) := by decide +kernel
  rw [hescape] at hrun
  cases hrun

end Script

end Shopfloor
