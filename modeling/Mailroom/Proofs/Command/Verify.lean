import Mailroom.Command.Perform
import Mailroom.Proofs.Report.Print

/-!
# Verifying a program

The status of `verify` says whether the program passes, and so does the last line that it prints.
Passing is not defined by the trials of the level, which are made one after the other on one
machine, but by each test case on a machine of its own; that the trials cannot see each other is
used here.

A program that comes from a source has instructions in all its slots, so all trials are made. It has
a report that can be printed, too, unless the source is longer than any that could be held: a mean
of that many cycles would be no double.
-/

set_option autoImplicit false
set_option maxRecDepth 10000

namespace Mailroom

open Machine

/-- The run of a test case on a new machine finishes with the output that is wanted. -/
def Passes (p : Program) (limit : Nat) (test : TestCase) : Prop :=
  ∃ r, (run p limit test.input).result = .ok r ∧ r.output = test.output

theorem passed_newReport_iff {p : Program} {limit : Nat} {level : Level} :
    (newReport p limit level).passed = true ↔ ∀ test ∈ level.tests, Passes p limit test := by
  rw [Report.passed, List.all_eq_true]
  constructor
  · intro h test htest
    obtain ⟨i, hi⟩ := List.getElem?_of_mem htest
    exact passed_newTrial_iff.mp (h _ (List.mem_of_getElem? (getElem?_newTrials hi)))
  · intro h t ht
    obtain ⟨x, hx, rfl⟩ := List.mem_map.mp ht
    exact passed_newTrial_iff.mpr (h x.1 (List.fst_mem_of_mem_zipIdx hx))

namespace Command

variable {p : Program} {limit : Nat} {level : Level}

theorem performVerify_eq (hp : p.WellFormed) :
    performVerify p limit level =
      match (newReport p limit level).text with
      | .error e => .error (.print e)
      | .ok text =>
        .ok (⟨.status (if (newReport p limit level).passed then 0 else 1), text, ""⟩,
          (judge p limit .initial level.tests).events.map Event.logLine) := by
  rw [performVerify, Report.score_of_allInstructions hp.instructions]
  rfl

/-- **What `verify` prints is what happened.** A program that comes from a source is always tried to
the end. The status is 0 if every case, run on a new machine, finishes with the output that is
wanted, and 1 otherwise. The lines of the text are those of the cases, in order, and four more, of
which the last repeats what the status says; no label that the program jumps to can add a line, or
break one. The source and the level may be as long as they like, up to lengths that no memory
holds. -/
theorem verify_reports_faithfully (header source : String) (p : Program)
    (hload : Program.load header source = .ok p) (hsource : source.length ≤ 2 ^ 1023)
    (limit : Nat) (level : Level) (hlevel : level.Writable) :
    ∃ status text log speed,
      performVerify p limit level = .ok (⟨.status status, text, ""⟩, log) ∧
      (status = 0 ∧ (∀ test ∈ level.tests, Passes p limit test) ∨
        status = 1 ∧ ¬ ∀ test ∈ level.tests, Passes p limit test) ∧
      (newReport p limit level).speedShown = .ok speed ∧
      Text.lines text =
        (level.tests.zipIdx.flatMap fun x => caseLines p limit level.goals.speed (x.2 + 1) x.1) ++
          ["", (newReport p limit level).sizeLine, (newReport p limit level).speedLine speed,
            if status = 0 then "Success!" else "Failed."] := by
  have hp := Program.wellFormed_of_load hload
  have hsize : p.size < 2 ^ 1023 := (Program.size_lt_of_load hload).trans_le hsource
  obtain ⟨speed, hspeed⟩ := exists_speedShown hsize limit level
  obtain ⟨text, htext, hlines⟩ := text_newReport hp hsize hlevel hspeed
  have hverify := @performVerify_eq p limit level hp
  rw [htext] at hverify
  refine ⟨_, text, _, speed, hverify, ?_, hspeed, ?_⟩
  · rw [← passed_newReport_iff]
    cases (newReport p limit level).passed <;> simp
  · rw [hlines, reportLines, Report.summary]
    cases (newReport p limit level).passed <;> rfl

/-- A program that ends, if it does not fail before, by jumping to a label that is named like the
last line of a success. -/
theorem verify_reports_faithfully_with_lost_label :
    let seven : Cell := ⟨7, by decide⟩
    let level : Level := ⟨⟨3, 9⟩, [⟨[], []⟩, ⟨[seven], [seven]⟩]⟩
    ∃ p text log, Program.load "HRM" "HRM\nINBOX\nOUTBOX\nJUMP Success!\n" = .ok p ∧
      performVerify p 9 level = .ok (⟨.status 1, text, ""⟩, log) ∧
      Text.lines text = ["Test 1: FAIL", "  Error: attempted to read past the end of the input",
        "Test 2: FAIL", "  Error: undefined label \"Success!\"", "",
        "Instructions: 3 [goal 3] size_goal=met", "Speed: - [goal 9] speed_goal=missed",
        "Failed."] := by
  intro seven level
  let p : Program := ⟨[.instruction .inbox, .instruction .outbox,
    .instruction (.jump "Success!")], []⟩
  have hload : Program.load "HRM" "HRM\nINBOX\nOUTBOX\nJUMP Success!\n" = .ok p := rfl
  have hsource : ∀ k, 5 ≤ k → 31 ≤ 2 ^ k := fun k hk =>
    (by decide : 31 ≤ 2 ^ 5).trans (Nat.pow_le_pow_right (by decide) hk)
  have hlimit : ∀ n < 10, n < 10 ^ 4300 := fun n hn => Text.lt_pow_of_lt (k := 1) hn (by decide)
  have hlevel : level.Writable :=
    ⟨hlimit 3 (by decide), hlimit 9 (by decide), hlimit 2 (by decide)⟩
  obtain ⟨status, text, log, speed, hverify, hstatus, hspeed, hlines⟩ :=
    verify_reports_faithfully _ _ p hload (hsource 1023 (by decide)) 9 level hlevel
  have hfails : ¬ ∀ test ∈ level.tests, Passes p 9 test := by
    intro h
    obtain ⟨r, hr, -⟩ := h ⟨[], []⟩ (by simp [level])
    cases hr
  obtain ⟨rfl, -⟩ : status = 1 ∧ _ := hstatus.resolve_left fun h => hfails h.2
  obtain rfl : "-" = speed := Except.ok.inj hspeed
  exact ⟨p, text, log, hload, hverify, hlines.trans (by decide +kernel)⟩

end Command

end Mailroom
