import Mailroom.Proofs.Machine.Values
import Mailroom.Proofs.Number.Rounding
import Mailroom.Proofs.Report.Trials
import Mailroom.Report.Print

/-!
# The speed of a program that passes

A program does the same instructions wherever it finishes, so all trials that it passes take the
same number of cycles, and that number is at most its size (`cycles_of_finished`). The mean of
equal numbers is that number, and a double holds it exactly unless the program has more than
`2 ^ 53` slots. So the speed that is reported is a number of cycles and not an approximation to one.

A report can be put together without a program, and then its trials may have any cycles. Their mean
is rounded, but the goal is decided as if it were not (`speed_goal_decided_exactly`).
-/

set_option autoImplicit false

namespace Mailroom

open Machine

variable {p : Program} {limit : Nat}

/-- Runs that finish take the same number of cycles, which are no more than the slots and no more
than the limit. -/
theorem cycles_of_finished {α : Type} {xs ys : List α} {r r' : Result α}
    (h : (run p limit xs).result = .ok r) (h' : (run p limit ys).result = .ok r') :
    r'.cycles = r.cycles ∧ r.cycles ≤ p.size ∧ r.cycles ≤ limit := by
  obtain ⟨is, c, hfin, hle, rfl⟩ := run_result_eq_ok_iff.mp h
  obtain ⟨js, d, hfin', -, rfl⟩ := run_result_eq_ok_iff.mp h'
  have hsame : js = is := hfin'.same_instructions hfin
  exact ⟨congrArg List.length hsame, hfin.length_le_size, hle⟩

theorem exists_cycles_of_passed {tests : List TestCase} (hne : tests ≠ [])
    (h : (newTrials p limit tests).all Trial.passed = true) :
    ∃ c : Nat, (∀ t ∈ newTrials p limit tests, t.cycles = some (c : Int)) ∧
      c ≤ p.size ∧ c ≤ limit := by
  have hfinished : ∀ test ∈ tests, ∃ r, (run p limit test.input).result = .ok r := by
    intro test htest
    obtain ⟨i, hi⟩ := List.getElem?_of_mem htest
    have hmem : newTrial p limit i test ∈ newTrials p limit tests :=
      List.mem_of_getElem? (getElem?_newTrials hi)
    obtain ⟨r, hr, -⟩ := passed_newTrial_iff.mp (List.all_eq_true.mp h _ hmem)
    exact ⟨r, hr⟩
  obtain ⟨first, hfirst⟩ := List.exists_mem_of_ne_nil tests hne
  obtain ⟨r, hr⟩ := hfinished first hfirst
  obtain ⟨-, hsize, hlimit⟩ := cycles_of_finished hr hr
  refine ⟨r.cycles, fun t ht => ?_, hsize, hlimit⟩
  obtain ⟨x, hx, rfl⟩ := List.mem_map.mp ht
  obtain ⟨r', hr'⟩ := hfinished x.1 (List.fst_mem_of_mem_zipIdx hx)
  rw [((tells_newTrial p limit x.2 x.1).finished r' hr').2.1, (cycles_of_finished hr hr').1]

namespace Report

variable {r : Report} {c : Nat}

theorem totalCycles_eq_mul (h : ∀ t ∈ r.trials, t.cycles = some (c : Int)) :
    r.totalCycles = (r.trials.length : Int) * c := by
  unfold totalCycles
  generalize r.trials = ts at h ⊢
  induction ts with
  | nil => simp
  | cons t ts ih =>
    rw [List.foldr_cons, ih fun u hu => h u (by simp [hu]), h t (by simp), Option.getD_some,
      List.length_cons, Nat.cast_succ, Int.add_mul, Int.one_mul, Int.add_comm]

theorem speed_eq_mean (hne : r.trials ≠ []) (hpassed : r.passed = true)
    (h : ∀ t ∈ r.trials, t.cycles = some (c : Int)) (hc : c ≤ 2 ^ 53) :
    ∃ m e, r.speed = .mean (.finite false m e) ∧ (m : ℚ) * 2 ^ e = c := by
  obtain ⟨m, e, hdiv, hvalue⟩ :=
    Binary64.divInt?_exact (List.length_pos_of_ne_nil hne) hc
  refine ⟨m, e, ?_, hvalue⟩
  simp [speed, hne, hpassed, totalCycles_eq_mul h, hdiv]

end Report

/-- **The speed of a program that passes is exact.** Its trials all take one number of cycles, which
is at most its size and at most the limit. The speed is a double of that very value, it is printed
as the number with two zeros after the point, and the goal is met exactly when the number does not
exceed it; a program no larger than the goal always meets it. -/
theorem speed_of_passed_is_exact (p : Program) (hsize : p.size ≤ 2 ^ 53) (level : Level)
    (htests : level.tests ≠ []) (limit : Nat) (r : Report)
    (hr : Report.score p level limit = .ok r) (hpassed : r.passed = true) :
    ∃ c : Nat, r.trials.length = level.tests.length ∧
      (∀ t ∈ r.trials, t.cycles = some (c : Int)) ∧
      c ≤ p.size ∧ c ≤ limit ∧
      (∃ x, r.speed = .mean x ∧ x.value? = some (c : ℚ)) ∧
      r.speedShown = .ok (toString c ++ ".00") ∧
      (r.speedGoalMet = true ↔ c ≤ level.goals.speed) ∧
      (p.size ≤ level.goals.speed → r.speedGoalMet = true) := by
  obtain ⟨-, rfl⟩ := Report.score_eq_ok_iff.mp hr
  obtain ⟨c, hcycles, hcsize, hclimit⟩ := exists_cycles_of_passed htests hpassed
  have hne : newTrials p limit level.tests ≠ [] := by
    rw [← List.length_pos_iff, length_newTrials, List.length_pos_iff]
    exact htests
  -- all trials take the same number of cycles, so their mean is that number, which is not rounded
  obtain ⟨m, e, hspeed, hvalue⟩ :=
    Report.speed_eq_mean (r := ⟨p.size, level.goals, newTrials p limit level.tests⟩) hne hpassed
      hcycles (hcsize.trans hsize)
  have hgoal : Report.speedGoalMet ⟨p.size, level.goals, newTrials p limit level.tests⟩ = true ↔
      c ≤ level.goals.speed := by
    rw [Report.speedGoalMet, hspeed]
    exact (Binary64.leInt_exact hvalue _).trans Int.ofNat_le
  refine ⟨c, length_newTrials _, hcycles, hcsize, hclimit, ⟨_, hspeed, ?_⟩, ?_, hgoal,
    fun hle => ?_⟩
  · simp [Binary64.value?, hvalue]
  · rw [Report.speedShown, hspeed]
    exact congrArg _ (Binary64.fixed_exact hvalue)
  · exact hgoal.mpr (hcsize.trans hle)

/-- A program of four slots that leaves one out, tried on inboxes of different lengths. -/
theorem speed_of_passed_is_exact_for_skipped_slot :
    let p : Program :=
      ⟨[.instruction .inbox, .instruction (.jump "out"), .instruction .inbox,
        .instruction .outbox], [("out", 3)]⟩
    let seven : Cell := ⟨7, by decide⟩
    let nine : Cell := ⟨-9, by decide⟩
    let level : Level := ⟨⟨4, 3⟩, [⟨[seven], [seven]⟩, ⟨[nine, seven], [nine]⟩]⟩
    ∃ r, Report.score p level 3 = .ok r ∧ r.passed = true ∧ r.speedShown = .ok "3.00" ∧
      r.speedGoalMet = true := by
  intro p seven nine level
  refine ⟨_, rfl, rfl, ?_⟩
  obtain ⟨c, -, hcycles, -, -, -, hshown, hgoal, -⟩ :=
    speed_of_passed_is_exact p (by decide) level (by simp [level]) 3 _ rfl rfl
  obtain rfl : c = 3 := by
    have hfirst : some (3 : Int) = some (c : Int) := hcycles _ List.mem_cons_self
    exact_mod_cast (Option.some.inj hfirst).symm
  exact ⟨hshown, hgoal.mpr (by decide)⟩

/-! ## Reports with any cycles -/

/-- **The speed goal is decided exactly, in spite of rounding.** Where every trial is passed and
there is one, the speed is the mean rounded to a double; the goal is met exactly when the cycles of
all trials together are at most so many times the goal as there are trials. There may be up to `2 ^
53` trials and as many cycles, also negative ones, and the goal may be any number. -/
theorem speed_goal_decided_exactly (r : Report) (hne : r.trials ≠ []) (hpassed : r.passed = true)
    (htrials : r.trials.length ≤ 2 ^ 53) (hcycles : |r.totalCycles| ≤ 2 ^ 53) :
    (∃ x, r.speed = .mean x) ∧
      (r.speedGoalMet = true ↔ r.totalCycles ≤ r.goals.speed * r.trials.length) := by
  obtain ⟨x, hdiv, hgoal⟩ :=
    Binary64.divInt?_leInt_iff (List.length_pos_of_ne_nil hne) htrials hcycles
  have hspeed : r.speed = .mean x := by simp [Report.speed, hne, hpassed, hdiv]
  refine ⟨⟨x, hspeed⟩, ?_⟩
  rw [Report.speedGoalMet, hspeed]
  exact hgoal r.goals.speed

/-- Two trials, of which one has no count. The mean is half a cycle below `2 ^ 52`, which is as near
as two trials can come, and both goals next to it are decided right. -/
theorem speed_goal_decided_exactly_near_goal :
    let trial (cycles : Option Int) : Trial := ⟨0, [], [], some [], cycles, none⟩
    let report (goal : Nat) : Report :=
      ⟨1, ⟨1, goal⟩, [trial (some 9007199254740991), trial none]⟩
    (report 4503599627370496).speedGoalMet = true ∧
      (report 4503599627370495).speedGoalMet = false := by
  intro trial report
  have hcycles : ∀ goal, (report goal).totalCycles = 9007199254740991 := fun _ => rfl
  have hgoal := fun goal => (speed_goal_decided_exactly (report goal) (List.cons_ne_nil _ _) rfl
    (show 2 ≤ 2 ^ 53 by decide) (by rw [hcycles]; decide)).2
  exact ⟨(hgoal _).mpr (by decide), Bool.eq_false_iff.mpr (mt (hgoal _).mp (by decide))⟩

-- with one cycle more than `2 ^ 53` the mean is rounded down onto a goal that it exceeds
example :
    let r : Report :=
      ⟨1, ⟨1, 9007199254740992⟩, [⟨0, [], [], some [], some 9007199254740993, none⟩]⟩
    r.speedGoalMet = true ∧ ¬ r.totalCycles ≤ r.goals.speed * r.trials.length := by
  decide

end Mailroom
