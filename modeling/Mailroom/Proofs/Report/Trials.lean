import Mailroom.Proofs.Program.Safety
import Mailroom.Report.Basic
import Mathlib.Data.List.FinRange

/-!
# Trials do not influence each other

The test cases of a level are tried on one machine, which each run leaves in some state. Since it
is reset before every run, a trial is what a new machine would have made of its case (`newTrial`).
`judgeFrom_of_tried` says so of all cases together, by induction along them: of the state that is
handed on, the reset leaves nothing.

A slot that is not an instruction is no fault of the program and ends the trials altogether, so
the cases that are tried are those up to the first that comes upon one (`judgeFrom_of_foreign`).

What a report sums up does not depend on the order of its trials. They are numbered in order, but no
one looks at the numbers, and cycles are added up in any order (`totalCycles_eq_of_perm`).
-/

set_option autoImplicit false

namespace Mailroom

open Machine

def Program.AllInstructions (p : Program) : Prop := ∀ slot ∈ p.slots, ∃ i, slot = .instruction i

/-! ## One case after the other -/

section

variable {p : Program} {limit : Nat}

/-- The run of a test case does not come upon a slot that is not an instruction. -/
def Tried (p : Program) (limit : Nat) (test : TestCase) : Prop :=
  ∀ kind, (run p limit test.input).fault ≠ some (.notInstruction kind)

def newTrial (p : Program) (limit index : Nat) (test : TestCase) : Trial :=
  .ofResult index test (run p limit test.input).result

/-- The state in which a machine is left by the last of some runs, each on a new machine. -/
def stateAfter (p : Program) (limit : Nat) (state : State Cell) (tests : List TestCase) :
    State Cell :=
  (tests.getLast?.map fun test => (run p limit test.input).left).getD state

theorem stateAfter_cons (state : State Cell) (test : TestCase) (rest : List TestCase) :
    stateAfter p limit state (test :: rest) =
      stateAfter p limit (run p limit test.input).left rest := by
  simp only [stateAfter, List.getLast?_cons, Option.map_some, Option.getD_some]
  cases rest.getLast? <;> rfl

theorem judgeFrom_cons_of_tried {test : TestCase} (h : Tried p limit test) (index : Nat)
    (state : State Cell) (rest : List TestCase) :
    judgeFrom p limit index state (test :: rest) =
      let after := judgeFrom p limit (index + 1) (run p limit test.input).left rest
      { trials := after.trials.map (newTrial p limit index test :: ·)
        state := after.state
        events := (run p limit test.input).events ++ after.events } := by
  rw [judgeFrom, rerun_eq_run]
  split
  · exact absurd ‹_› (h _)
  · rfl

theorem judgeFrom_cons_of_foreign {test : TestCase} {kind : String}
    (h : (run p limit test.input).fault = some (.notInstruction kind)) (index : Nat)
    (state : State Cell) (rest : List TestCase) :
    judgeFrom p limit index state (test :: rest) =
      ⟨.error (.notInstruction kind), (run p limit test.input).left,
        (run p limit test.input).events⟩ := by
  rw [judgeFrom, rerun_eq_run, h]

theorem judgeFrom_of_tried {tests : List TestCase} (h : ∀ test ∈ tests, Tried p limit test)
    (index : Nat) (state : State Cell) :
    judgeFrom p limit index state tests =
      { trials := .ok ((tests.zipIdx index).map fun x => newTrial p limit x.2 x.1)
        state := stateAfter p limit state tests
        events := tests.flatMap fun test => (run p limit test.input).events } := by
  induction tests generalizing index state with
  | nil => rfl
  | cons test rest ih =>
    rw [judgeFrom_cons_of_tried (h test (by simp)), ih fun t ht => h t (by simp [ht])]
    simp only [stateAfter_cons]
    rfl

/-- The first case that comes upon a slot that is not an instruction is the last that is run. -/
theorem judgeFrom_of_foreign {front : List TestCase} {test : TestCase} {kind : String}
    (hfront : ∀ t ∈ front, Tried p limit t)
    (h : (run p limit test.input).fault = some (.notInstruction kind)) (index : Nat)
    (state : State Cell) (rest : List TestCase) :
    judgeFrom p limit index state (front ++ test :: rest) =
      { trials := .error (.notInstruction kind)
        state := (run p limit test.input).left
        events := (front ++ [test]).flatMap fun t => (run p limit t.input).events } := by
  induction front generalizing index state with
  | nil =>
    rw [List.nil_append, judgeFrom_cons_of_foreign h]
    simp
  | cons t front ih =>
    rw [List.cons_append, judgeFrom_cons_of_tried (hfront t (by simp)),
      ih fun t ht => hfront t (by simp [ht])]
    rfl

theorem tried_or_foreign (p : Program) (limit : Nat) (tests : List TestCase) :
    (∀ test ∈ tests, Tried p limit test) ∨
      ∃ front test rest kind, tests = front ++ test :: rest ∧ (∀ t ∈ front, Tried p limit t) ∧
        (run p limit test.input).fault = some (.notInstruction kind) := by
  induction tests with
  | nil => exact Or.inl (by simp)
  | cons test rest ih =>
    by_cases htest : Tried p limit test
    · rcases ih with hall | ⟨front, t, rest', kind, rfl, hfront, hkind⟩
      · exact Or.inl (List.forall_mem_cons.mpr ⟨htest, hall⟩)
      · exact Or.inr ⟨test :: front, t, rest', kind, rfl,
          List.forall_mem_cons.mpr ⟨htest, hfront⟩, hkind⟩
    · simp only [Tried, ne_eq, not_forall, not_not] at htest
      obtain ⟨kind, hkind⟩ := htest
      exact Or.inr ⟨[], test, rest, kind, rfl, by simp, hkind⟩

theorem tried_of_allInstructions (hp : p.AllInstructions) (test : TestCase) :
    Tried p limit test := by
  intro kind hfault
  rcases exists_fails_of_run (Stopped.result_eq_error_iff.mpr hfault) with ⟨c, d, hf⟩ | hlimit
  · cases hf with
    | notInstruction hslot =>
      obtain ⟨i, hi⟩ := hp _ (Program.mem_slots_of_slot? hslot)
      cases hi
  · cases hlimit

end

/-! ## The order of the trials -/

namespace Trial

def unnumbered (t : Trial) : Trial := { t with index := 0 }

/-- What a trial says of its case: the case itself, and what a new machine made of it. -/
structure Tells (p : Program) (limit index : Nat) (test : TestCase) (t : Trial) : Prop where
  index_eq : t.index = index
  input_eq : t.input = test.input
  expected_eq : t.expected = test.output
  finished : ∀ r, (run p limit test.input).result = .ok r →
    t.output = some r.output ∧ t.cycles = some (r.cycles : Int) ∧ t.error = none
  failed : ∀ fault, (run p limit test.input).result = .error fault →
    t.output = none ∧ t.cycles = none ∧ t.error = some fault.message

end Trial

theorem tells_newTrial (p : Program) (limit index : Nat) (test : TestCase) :
    (newTrial p limit index test).Tells p limit index test := by
  unfold newTrial
  cases hr : (run p limit test.input).result with
  | ok r =>
    refine ⟨rfl, rfl, rfl, fun r' h => ?_, fun fault h => ?_⟩
    · rw [hr] at h
      cases h
      exact ⟨rfl, rfl, rfl⟩
    · rw [hr] at h
      cases h
  | error fault =>
    refine ⟨rfl, rfl, rfl, fun r h => ?_, fun fault' h => ?_⟩
    · rw [hr] at h
      cases h
    · rw [hr] at h
      cases h
      exact ⟨rfl, rfl, rfl⟩

theorem passed_newTrial_iff {p : Program} {limit index : Nat} {test : TestCase} :
    (newTrial p limit index test).passed = true ↔
      ∃ r, (run p limit test.input).result = .ok r ∧ r.output = test.output := by
  unfold newTrial
  cases (run p limit test.input).result with
  | ok r => simp [Trial.ofResult, Trial.passed]
  | error fault => simp [Trial.ofResult, Trial.passed]

theorem newTrial_renumbered (p : Program) (limit i j : Nat) (test : TestCase) :
    newTrial p limit i test = { newTrial p limit j test with index := i } := by
  unfold newTrial
  cases (run p limit test.input).result <;> rfl

def newTrials (p : Program) (limit : Nat) (tests : List TestCase) : List Trial :=
  tests.zipIdx.map fun x => newTrial p limit x.2 x.1

section

variable {p : Program} {limit : Nat}

theorem length_newTrials (tests : List TestCase) :
    (newTrials p limit tests).length = tests.length := by
  simp [newTrials]

theorem getElem?_newTrials {tests : List TestCase} {i : Nat} {test : TestCase}
    (h : tests[i]? = some test) :
    (newTrials p limit tests)[i]? = some (newTrial p limit i test) := by
  simp [newTrials, List.getElem?_zipIdx, h]

theorem map_unnumbered_newTrials (tests : List TestCase) :
    (newTrials p limit tests).map Trial.unnumbered = tests.map (newTrial p limit 0) := by
  conv_rhs => rw [← List.zipIdx_map_fst 0 tests]
  rw [newTrials, List.map_map, List.map_map]
  refine List.map_congr_left fun x _ => ?_
  rw [Function.comp_apply, Trial.unnumbered, newTrial_renumbered p limit x.2 0]
  exact (newTrial_renumbered p limit 0 0 x.1).symm

theorem judge_of_allInstructions (hp : p.AllInstructions) (state : State Cell)
    (tests : List TestCase) :
    (judge p limit state tests).trials = .ok (newTrials p limit tests) := by
  rw [judge, judgeFrom_of_tried fun test _ => tried_of_allInstructions hp test]
  rfl

namespace Report

/-- A report is made when no test case comes upon a slot that is not an instruction. -/
theorem score_eq_ok_iff {level : Level} {r : Report} :
    score p level limit = .ok r ↔
      (∀ test ∈ level.tests, Tried p limit test) ∧
        r = ⟨p.size, level.goals, newTrials p limit level.tests⟩ := by
  unfold score judge
  rcases tried_or_foreign p limit level.tests with
    htried | ⟨front, test, rest, kind, htests, hfront, hfault⟩
  · rw [judgeFrom_of_tried htried]
    constructor
    · intro h
      cases h
      exact ⟨htried, rfl⟩
    · rintro ⟨-, rfl⟩
      rfl
  · rw [htests, judgeFrom_of_foreign hfront hfault]
    constructor
    · intro h
      cases h
    · rintro ⟨htried, -⟩
      exact absurd hfault (htried test (by simp) kind)

theorem score_of_allInstructions (hp : p.AllInstructions) (level : Level) :
    score p level limit = .ok ⟨p.size, level.goals, newTrials p limit level.tests⟩ :=
  score_eq_ok_iff.mpr ⟨fun test _ => tried_of_allInstructions hp test, rfl⟩

variable {r r' : Report}

theorem passed_eq_of_perm
    (h : (r'.trials.map Trial.unnumbered).Perm (r.trials.map Trial.unnumbered)) :
    r'.passed = r.passed := by
  have hall : ∀ s : Report, s.passed = (s.trials.map Trial.unnumbered).all Trial.passed := by
    intro s
    rw [passed, List.all_map]
    rfl
  rw [hall, hall, h.all_eq]

theorem totalCycles_eq_of_perm
    (h : (r'.trials.map Trial.unnumbered).Perm (r.trials.map Trial.unnumbered)) :
    r'.totalCycles = r.totalCycles := by
  let add (t : Trial) (sum : Int) : Int := t.cycles.getD 0 + sum
  have hfold : ∀ s : Report, s.totalCycles = (s.trials.map Trial.unnumbered).foldr add 0 := by
    intro s
    rw [totalCycles, List.foldr_map]
    rfl
  have : LeftCommutative add := ⟨fun t u sum => Int.add_left_comm _ _ _⟩
  rw [hfold, hfold, h.foldr_eq]

theorem speed_eq_of_perm
    (h : (r'.trials.map Trial.unnumbered).Perm (r.trials.map Trial.unnumbered)) :
    r'.speed = r.speed := by
  have hlength : r'.trials.length = r.trials.length := by simpa using h.length_eq
  have hempty : r'.trials.isEmpty = r.trials.isEmpty := by
    rw [Bool.eq_iff_iff, List.isEmpty_iff_length_eq_zero, List.isEmpty_iff_length_eq_zero, hlength]
  rw [speed, speed, hempty, passed_eq_of_perm h, totalCycles_eq_of_perm h, hlength]

end Report

end

/-- **Trials do not influence each other.** Whatever state the machine is in, each test case has its
trial, in order, and the trial says what a new machine makes of that case alone. So another order
of the test cases gives the trials in that order, and a report that says the same. -/
theorem trials_are_independent (p : Program) (hp : p.AllInstructions) (limit : Nat) :
    (∀ (state : State Cell) (tests : List TestCase), ∃ trials : List Trial,
      (judge p limit state tests).trials = .ok trials ∧ trials.length = tests.length ∧
      ∀ (i : Nat) (test : TestCase), tests[i]? = some test →
        ∃ t, trials[i]? = some t ∧ t.Tells p limit i test) ∧
    ∀ (level : Level) (σ : Equiv.Perm (Fin level.tests.length)), ∃ r r',
      Report.score p level limit = .ok r ∧
      Report.score p { level with tests := List.ofFn fun i => level.tests.get (σ i) } limit =
        .ok r' ∧
      r'.trials.length = r.trials.length ∧
      (∀ i, ∃ t, r.trials[(σ i).val]? = some t ∧
        r'.trials[i.val]? = some { t with index := i.val }) ∧
      r'.passed = r.passed ∧ r'.speed = r.speed ∧ r'.sizeGoalMet = r.sizeGoalMet ∧
      r'.speedGoalMet = r.speedGoalMet := by
  refine ⟨fun state tests => ?_, fun level σ => ?_⟩
  · exact ⟨_, judge_of_allInstructions hp state tests, length_newTrials tests,
      fun i test hi => ⟨_, getElem?_newTrials hi, tells_newTrial p limit i test⟩⟩
  · let r : Report := ⟨p.size, level.goals, newTrials p limit level.tests⟩
    let r' : Report :=
      ⟨p.size, level.goals, newTrials p limit (List.ofFn fun i => level.tests.get (σ i))⟩
    refine ⟨r, r', Report.score_of_allInstructions hp level, Report.score_of_allInstructions hp _,
      by simp [r, r', length_newTrials], fun i => ?_, ?_⟩
    · have hat : level.tests[(σ i).val]? = some (level.tests.get (σ i)) := by simp
      refine ⟨_, getElem?_newTrials hat, ?_⟩
      have hat' : (List.ofFn fun i => level.tests.get (σ i))[i.val]? =
          some (level.tests.get (σ i)) := by simp
      rw [getElem?_newTrials hat']
      exact congrArg some (newTrial_renumbered ..)
    · have htests : (List.ofFn fun i => level.tests.get (σ i)).Perm level.tests := by
        -- only the right side: the left one has `level.tests` in it as well
        conv_rhs => rw [← List.ofFn_get level.tests]
        exact σ.ofFn_comp_perm level.tests.get
      have hperm : (r'.trials.map Trial.unnumbered).Perm (r.trials.map Trial.unnumbered) := by
        rw [map_unnumbered_newTrials, map_unnumbered_newTrials]
        exact htests.map (newTrial p limit 0)
      have hspeed := Report.speed_eq_of_perm hperm
      refine ⟨Report.passed_eq_of_perm hperm, hspeed, rfl, ?_⟩
      rw [Report.speedGoalMet, Report.speedGoalMet, hspeed]

/-- A case that fails half-way, with a value in the outbox, before and after one that is passed. -/
theorem trials_are_independent_of_failed_trial :
    let p : Program := ⟨[.instruction .inbox, .instruction .outbox, .instruction .inbox], []⟩
    let seven : Cell := ⟨7, by decide⟩
    let short : TestCase := ⟨[seven], [seven]⟩
    let long : TestCase := ⟨[seven, seven], [seven]⟩
    p.AllInstructions ∧
      ∃ r r' t t', Report.score p ⟨⟨3, 3⟩, [short, long]⟩ 9 = .ok r ∧
        Report.score p ⟨⟨3, 3⟩, [long, short]⟩ 9 = .ok r' ∧
        r.trials[0]? = some t ∧ r'.trials[1]? = some { t with index := 1 } ∧
        r.trials[1]? = some t' ∧ r'.trials[0]? = some { t' with index := 0 } ∧
        (t.error = some Fault.endOfInput.message ∧ t'.cycles = some 3) ∧
        r'.passed = r.passed ∧ r'.speed = r.speed := by
  intro p seven short long
  have hp : p.AllInstructions := by simp [p, Program.AllInstructions]
  refine ⟨hp, ?_⟩
  obtain ⟨-, horder⟩ := trials_are_independent p hp 9
  obtain ⟨r, r', hr, hr', -, htrials, hpassed, hspeed, -⟩ :=
    horder ⟨⟨3, 3⟩, [short, long]⟩ (Equiv.swap 0 1)
  obtain ⟨t, ht, ht'⟩ := htrials 1
  obtain ⟨u, hu, hu'⟩ := htrials 0
  refine ⟨r, r', t, u, hr, hr', ht, ht', hu, hu', ?_, hpassed, hspeed⟩
  cases hr
  cases ht
  cases hu
  exact ⟨rfl, rfl⟩

end Mailroom
