import Mailroom.Proofs.Data.Failing
import Mailroom.Proofs.Report.Speed
import Mailroom.Proofs.Text.Decimal

/-!
# What a report looks like

The lines of a report depend on what a new machine makes of each case (`caseLines`) and on a few
numbers. A report whose numbers can all be written is printed, and the text that is printed has
exactly the lines it was made of. The only part of them that is not made here is the label of a jump
that leads nowhere, which comes from the source. It is a word of the source, and a word has no line
break in it.
-/

set_option autoImplicit false

namespace Mailroom

open Machine Text

/-! ## Writing numbers -/

theorem decimal_eq_ok_iff {n : Int} {text : String} :
    decimal n = .ok text ↔ n.natAbs < 10 ^ 4300 ∧ text = toString n := by
  have hpow : ∀ k, Nat.pow 10 k = 10 ^ k := fun _ => rfl
  unfold decimal writeDecimal?
  rw [hpow, show digitLimit = 4300 from rfl]
  generalize 10 ^ 4300 = bound
  by_cases hn : n.natAbs < bound
  · simp [hn, eq_comm]
  · simp [hn]

theorem decimal_natCast {n : Nat} (h : n < 10 ^ 4300) : decimal n = .ok (toString n) :=
  decimal_eq_ok_iff.mpr ⟨h, rfl⟩

/-! ## The lines of a case -/

/-- The lines of a case with a number, by what a new machine makes of it. -/
def caseLines (p : Program) (limit goal number : Nat) (test : TestCase) : List String :=
  let heading (word : String) := "Test " ++ toString number ++ ": " ++ word
  let outbox (cs : List Cell) := "  Outbox: " ++ Cell.showList cs
  let cycles (n : Nat) := "  Cycles: " ++ toString n ++ " [goal " ++ toString goal ++ "]"
  match (run p limit test.input).result with
  | .error fault => [heading "FAIL", "  Error: " ++ fault.message]
  | .ok r =>
    if r.output = test.output then [heading "PASS", outbox r.output, cycles r.cycles]
    else
      [heading "FAIL", outbox r.output, "  Expected: " ++ Cell.showList test.output,
        cycles r.cycles]

section

variable {p : Program} {limit goal : Nat}

theorem lines_newTrial {i : Nat} {test : TestCase} (hsize : p.size < 10 ^ 4300)
    (hgoal : goal < 10 ^ 4300) (hi : i + 1 < 10 ^ 4300) :
    (newTrial p limit i test).lines goal = .ok (caseLines p limit goal (i + 1) test) := by
  have hnumber : decimal ((i : Int) + 1) = .ok (toString (i + 1)) := decimal_natCast hi
  have hstring : ∀ text : String, toString text = text := fun _ => rfl
  unfold newTrial caseLines
  cases hr : (run p limit test.input).result with
  | error fault => simp [Trial.lines, Trial.ofResult, Trial.passed, hnumber, String.append_assoc]
  | ok r =>
    have hcycles := decimal_natCast ((cycles_of_finished hr hr).2.1.trans_lt hsize)
    by_cases hout : r.output = test.output <;>
      simp [Trial.lines, Trial.outcomeLines, Trial.ofResult, Trial.passed, cyclesText, hnumber,
        hstring, hout, hcycles, decimal_natCast hgoal, String.append_assoc, bind, Except.bind, pure,
        Except.pure]

theorem unbroken_showList (cs : List Cell) : Unbroken (Cell.showList cs) := by
  have hcells : ∀ l ∈ cs.map Cell.shown, Unbroken l := by
    intro l hl
    obtain ⟨c, -, rfl⟩ := List.mem_map.mp hl
    exact (isWord_toString c.value).unbroken
  have hopen : Unbroken "[" := by decide
  have hcomma : Unbroken ", " := by decide
  exact (hopen.append (hcomma.intercalate hcells)).append (by decide)

theorem unbroken_message {α : Type} {inbox : List α} {fault : Fault} (hp : p.WellFormed)
    (h : (run p limit inbox).result = .error fault) : Unbroken fault.message := by
  rcases exists_fails_of_run h with ⟨c, d, hf⟩ | rfl
  · cases hf with
    | endOfInput hs hi => exact (by decide : Unbroken Fault.endOfInput.message)
    | emptyAccumulator hs ha => exact (by decide : Unbroken Fault.emptyAccumulator.message)
    | undefinedLabel hs hl =>
      have hword := hp.operands _ (Program.mem_slots_of_slot? hs)
      have hstart : Unbroken "undefined label \"" := by decide
      exact (hstart.append hword.unbroken).append (by decide)
    | notInstruction hs =>
      obtain ⟨i, hi⟩ := hp.instructions _ (Program.mem_slots_of_slot? hs)
      cases hi
  · have hstart : Unbroken "maximum cycle count exceeded (limit " := by decide
    exact (hstart.append (isWord_toString_nat limit).unbroken).append (by decide)

theorem unbroken_caseLines {number : Nat} {test : TestCase} (hp : p.WellFormed) {l : String}
    (hl : l ∈ caseLines p limit goal number test) : Unbroken l := by
  have heading : ∀ word, Unbroken word → Unbroken ("Test " ++ toString number ++ ": " ++ word) := by
    intro word hword
    have hstart : Unbroken "Test " := by decide
    exact ((hstart.append (isWord_toString_nat number).unbroken).append (by decide)).append hword
  have outbox : ∀ cs, Unbroken ("  Outbox: " ++ Cell.showList cs) := fun cs =>
    (by decide : Unbroken "  Outbox: ").append (unbroken_showList cs)
  have expected : ∀ cs, Unbroken ("  Expected: " ++ Cell.showList cs) := fun cs =>
    (by decide : Unbroken "  Expected: ").append (unbroken_showList cs)
  have cycles : ∀ n : Nat,
      Unbroken ("  Cycles: " ++ toString n ++ " [goal " ++ toString goal ++ "]") := by
    intro n
    have hstart : Unbroken "  Cycles: " := by decide
    have hgoal := (isWord_toString_nat goal).unbroken
    exact (((hstart.append (isWord_toString_nat n).unbroken).append (by decide)).append
      hgoal).append (by decide)
  unfold caseLines at hl
  cases hr : (run p limit test.input).result with
  | error fault =>
    simp only [hr, List.mem_cons, List.not_mem_nil, or_false] at hl
    rcases hl with rfl | rfl
    · exact heading _ (by decide)
    · exact (by decide : Unbroken "  Error: ").append (unbroken_message hp hr)
  | ok r =>
    simp only [hr] at hl
    split at hl
    · simp only [List.mem_cons, List.not_mem_nil, or_false] at hl
      rcases hl with rfl | rfl | rfl
      · exact heading _ (by decide)
      · exact outbox _
      · exact cycles _
    · simp only [List.mem_cons, List.not_mem_nil, or_false] at hl
      rcases hl with rfl | rfl | rfl | rfl
      · exact heading _ (by decide)
      · exact outbox _
      · exact expected _
      · exact cycles _

end

/-! ## The lines that sum up -/

theorem unbroken_paddedNat (width n : Nat) : Unbroken (Binary64.paddedNat width n) := by
  intro c hc
  simp only [Binary64.paddedNat, String.toList_ofList, List.mem_append, List.mem_replicate] at hc
  rcases hc with ⟨-, rfl⟩ | hc
  · decide
  · rw [← toList_toString_nat] at hc
    exact (isWord_toString_nat n).unbroken c hc

theorem unbroken_fixed (places : Nat) (x : Binary64) : Unbroken (x.fixed places) := by
  cases x with
  | finite negative m e =>
    have hsign : Unbroken (if negative then "-" else "") := by cases negative <;> decide
    exact ((hsign.append (isWord_toString_nat _).unbroken).append (by decide)).append
      (unbroken_paddedNat _ _)
  | infinite negative =>
    show Unbroken (if negative then "-inf" else "inf")
    cases negative <;> decide
  | nan => exact (by decide : Unbroken "nan")

namespace Report

variable {r : Report} {speed : String}

def sizeLine (r : Report) : String :=
  "Instructions: " ++ toString r.size ++ s!" [goal {r.goals.size}] size_goal=" ++
    goalWord r.sizeGoalMet

def speedLine (r : Report) (speed : String) : String :=
  "Speed: " ++ speed ++ s!" [goal {r.goals.speed}] speed_goal=" ++ goalWord r.speedGoalMet

def summary (r : Report) (speed : String) : List String :=
  ["", r.sizeLine, r.speedLine speed, if r.passed then "Success!" else "Failed."]

theorem summaryLines_eq_ok_iff {ls : List String} :
    r.summaryLines = .ok ls ↔
      r.size.natAbs < 10 ^ 4300 ∧ r.goals.size < 10 ^ 4300 ∧ r.goals.speed < 10 ^ 4300 ∧
        ∃ speed, r.speedShown = .ok speed ∧ ls = r.summary speed := by
  unfold summaryLines
  simp only [bind_eq_ok_iff, decimal_eq_ok_iff]
  constructor
  · rintro ⟨speed, hspeed, _, ⟨hsize, rfl⟩, _, ⟨hgoal, rfl⟩, _, ⟨hgoal', rfl⟩, h⟩
    exact ⟨hsize, hgoal, hgoal', speed, hspeed, (Except.ok.inj h).symm⟩
  · rintro ⟨hsize, hgoal, hgoal', speed, hspeed, rfl⟩
    exact ⟨speed, hspeed, _, ⟨hsize, rfl⟩, _, ⟨hgoal, rfl⟩, _, ⟨hgoal', rfl⟩, rfl⟩

theorem unbroken_speedShown (h : r.speedShown = .ok speed) : Unbroken speed := by
  unfold speedShown at h
  split at h
  · cases h
    decide
  · cases h
    exact unbroken_fixed 2 _
  · cases h

theorem unbroken_summary (h : Unbroken speed) {l : String} (hl : l ∈ r.summary speed) :
    Unbroken l := by
  have hgoal : ∀ (goal : Nat) (name : String), Unbroken name →
      Unbroken (" [goal " ++ toString goal ++ name) := by
    intro goal name hname
    have hstart : Unbroken " [goal " := by decide
    exact (hstart.append (isWord_toString_nat goal).unbroken).append hname
  have hline : ∀ (start shown goal : String) (met : Bool), Unbroken start → Unbroken shown →
      Unbroken goal → Unbroken (start ++ shown ++ goal ++ goalWord met) := by
    intro start shown goal met hstart hshown hgoal
    have hword : Unbroken (goalWord met) := by cases met <;> decide
    exact ((hstart.append hshown).append hgoal).append hword
  simp only [summary, List.mem_cons, List.not_mem_nil, or_false] at hl
  rcases hl with rfl | rfl | rfl | rfl
  · decide
  · exact hline _ _ _ _ (by decide) (isWord_toString r.size).unbroken (hgoal _ _ (by decide))
  · exact hline _ _ _ _ (by decide) h (hgoal _ _ (by decide))
  · split <;> decide

end Report

/-! ## Whole reports -/

section

variable {p : Program} {limit : Nat} {level : Level} {speed : String}

/-- The report of a program that is tried on new machines. -/
def newReport (p : Program) (limit : Nat) (level : Level) : Report :=
  ⟨p.size, level.goals, newTrials p limit level.tests⟩

/-- The numbers of a level that stand in a report have at most 4300 digits. -/
structure Level.Writable (level : Level) : Prop where
  size : level.goals.size < 10 ^ 4300
  speed : level.goals.speed < 10 ^ 4300
  tests : level.tests.length < 10 ^ 4300

def reportLines (p : Program) (limit : Nat) (level : Level) (speed : String) : List String :=
  (level.tests.zipIdx.flatMap fun x => caseLines p limit level.goals.speed (x.2 + 1) x.1) ++
    (newReport p limit level).summary speed

theorem exists_speedShown (hp : p.size < 2 ^ 1023) (limit : Nat) (level : Level) :
    ∃ speed, (newReport p limit level).speedShown = .ok speed := by
  unfold Report.speedShown
  cases hspeed : (newReport p limit level).speed with
  | undefined => exact ⟨_, rfl⟩
  | mean x => exact ⟨_, rfl⟩
  | overflow =>
    exfalso
    unfold Report.speed at hspeed
    split at hspeed
    · cases hspeed
    · rename_i hsome
      simp only [Bool.or_eq_true, Bool.not_eq_true', not_or, List.isEmpty_iff,
        Bool.not_eq_false] at hsome
      -- only a mean can overflow, and the mean of a program that passes is at most its size
      obtain ⟨hne, hpassed⟩ := hsome
      have htests : level.tests ≠ [] := by
        rintro htests
        exact hne (by simp [newReport, newTrials, htests])
      obtain ⟨c, hcycles, hle, -⟩ := exists_cycles_of_passed htests hpassed
      obtain ⟨x, hx⟩ :=
        Binary64.exists_divInt? (List.length_pos_of_ne_nil hne) (hle.trans_lt hp)
      rw [Report.totalCycles_eq_mul hcycles, hx] at hspeed
      cases hspeed

theorem lines_newReport (hp : p.size < 2 ^ 1023) (hlevel : level.Writable)
    (hspeed : (newReport p limit level).speedShown = .ok speed) :
    (newReport p limit level).lines = .ok (reportLines p limit level speed) := by
  have hsize : p.size < 10 ^ 4300 := lt_pow_of_lt_two_pow hp (by decide)
  have htrials : (newReport p limit level).trials.mapM (·.lines level.goals.speed) =
      .ok (level.tests.zipIdx.map fun x => caseLines p limit level.goals.speed (x.2 + 1) x.1) := by
    rw [newReport, newTrials, mapM_eq_ok_iff, List.forall₂_map_left_iff, List.forall₂_map_right_iff,
      List.forall₂_same]
    intro x hx
    have hindex := (List.mem_zipIdx hx).2.1
    exact lines_newTrial hsize hlevel.speed (by
      have := hlevel.tests
      omega)
  have hsummary := (Report.summaryLines_eq_ok_iff (r := newReport p limit level)).mpr
    ⟨hsize, hlevel.size, hlevel.speed, speed, hspeed, rfl⟩
  unfold Report.lines
  refine bind_eq_ok_iff.mpr ⟨_, htrials, bind_eq_ok_iff.mpr ⟨_, hsummary, ?_⟩⟩
  rw [reportLines, List.flatMap_def]
  rfl

theorem writable_of_lines {ls : List String} (h : (newReport p limit level).lines = .ok ls) :
    level.Writable := by
  obtain ⟨trials, htrials, hrest⟩ := bind_eq_ok_iff.mp h
  obtain ⟨sums, hsums, -⟩ := bind_eq_ok_iff.mp hrest
  obtain ⟨-, hsize, hspeed, -⟩ := Report.summaryLines_eq_ok_iff.mp hsums
  refine ⟨hsize, hspeed, ?_⟩
  rcases List.eq_nil_or_concat level.tests with hnil | ⟨front, test, htests⟩
  · rw [hnil, List.length_nil]
    exact lt_pow_of_lt (show 0 < 10 ^ 0 by decide) (by decide)
  · -- the number of the last trial is printed, and it is the number of tests
    have hlast : newTrial p limit front.length test ∈ (newReport p limit level).trials := by
      apply List.mem_of_getElem? (i := front.length)
      exact getElem?_newTrials (by simp [htests])
    obtain ⟨lines, hlines⟩ := exists_of_mapM_eq_ok htrials hlast
    obtain ⟨number, hnumber, -⟩ := bind_eq_ok_iff.mp hlines
    have hindex : (newTrial p limit front.length test).index = front.length :=
      (tells_newTrial ..).index_eq
    rw [hindex, decimal_eq_ok_iff] at hnumber
    have hcount : level.tests.length = ((front.length : Int) + 1).natAbs := by
      simp only [htests, List.concat_eq_append, List.length_append, List.length_singleton]
      omega
    rw [hcount]
    exact hnumber.1

theorem unbroken_reportLines (hp : p.WellFormed) (hspeed : Unbroken speed) {l : String}
    (hl : l ∈ reportLines p limit level speed) : Unbroken l := by
  rcases List.mem_append.mp hl with hcase | hsummary
  · obtain ⟨x, -, hx⟩ := List.mem_flatMap.mp hcase
    exact unbroken_caseLines hp hx
  · exact Report.unbroken_summary hspeed hsummary

theorem text_newReport (hp : p.WellFormed) (hsize : p.size < 2 ^ 1023) (hlevel : level.Writable)
    (hspeed : (newReport p limit level).speedShown = .ok speed) :
    ∃ text, (newReport p limit level).text = .ok text ∧
      lines text = reportLines p limit level speed := by
  refine ⟨_, by rw [Report.text, lines_newReport hsize hlevel hspeed]; rfl, ?_⟩
  apply lines_joinLines
  intro l hl
  exact unbroken_reportLines hp (Report.unbroken_speedShown hspeed) hl

end

end Mailroom
