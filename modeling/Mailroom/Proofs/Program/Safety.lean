import Mailroom.Proofs.Machine.Limit
import Mailroom.Proofs.Program.WellFormed

/-!
# Loaded programs are safe to run

What can go wrong in a run of a program that was loaded is what a program can do wrong: it may read
past its input, put out what it does not have, jump to a name that its source does not declare, or
go on for too long. It never finds a slot that is not an instruction, and control never leaves the
program but through its end. All of it follows from `WellFormed`, with one case for each way in
which an instruction fails.
-/

set_option autoImplicit false
set_option maxRecDepth 10000

namespace Mailroom

namespace Machine

variable {α : Type} {p : Program}

theorem Fails.of_wellFormed {c d : Config α} {f : Fault} (hp : p.WellFormed) (h : Fails p c f d) :
    f = .endOfInput ∨ f = .emptyAccumulator ∨
      ∃ label, f = .undefinedLabel label ∧ label ∉ p.labels.map Prod.fst := by
  cases h with
  | endOfInput hs hi => exact Or.inl rfl
  | emptyAccumulator hs ha => exact Or.inr (Or.inl rfl)
  | undefinedLabel hs hl =>
    exact Or.inr (Or.inr ⟨_, rfl, Program.address?_eq_none_iff.mp hl⟩)
  | notInstruction hs =>
    obtain ⟨i, hi⟩ := hp.instructions _ (Program.mem_slots_of_slot? hs)
    cases hi

theorem exists_fails_of_run {limit : Nat} {inbox : List α} {f : Fault}
    (h : (run p limit inbox).result = .error f) :
    (∃ c d : Config α, Fails p c f d) ∨ f = .cycleLimit limit := by
  rw [Stopped.result_eq_error_iff] at h
  rcases run_stops_or_exceeds p limit inbox with ⟨is, -, hstops⟩ | ⟨is, c, -, -, hrun⟩
  · generalize run p limit inbox = s at h hstops
    cases hstops with
    | halted hs hh => cases h
    | failed hs hf =>
      cases h
      exact Or.inl ⟨_, _, hf⟩
  · rw [hrun] at h
    exact Or.inr (Option.some.inj h).symm

theorem run_fault_of_wellFormed {limit : Nat} {inbox : List α} {f : Fault} (hp : p.WellFormed)
    (h : (run p limit inbox).result = .error f) :
    f = .endOfInput ∨ f = .emptyAccumulator ∨
      (∃ label, f = .undefinedLabel label ∧ label ∉ p.labels.map Prod.fst) ∨
      f = .cycleLimit limit := by
  rcases exists_fails_of_run h with ⟨c, d, hf⟩ | hlimit
  · rcases hf.of_wellFormed hp with hend | hempty | hlabel
    · exact Or.inl hend
    · exact Or.inr (Or.inl hempty)
    · exact Or.inr (Or.inr (Or.inl hlabel))
  · exact Or.inr (Or.inr (Or.inr hlimit))

theorem executed_pc_inside {limit : Nat} {inbox : List α} (hp : p.LabelsInside)
    {done : List Instruction} (hdone : done <+: executed p limit inbox) :
    ∃ c, Steps p (.start inbox) done c ∧ 0 ≤ c.state.pc ∧ c.state.pc ≤ p.size := by
  obtain ⟨c, hs, -⟩ := exists_steps_executed p limit inbox
  obtain ⟨rest, heq⟩ := hdone
  rw [← heq] at hs
  obtain ⟨d, hd, -⟩ := hs.split
  exact ⟨d, hd, hd.pc_inside_start hp⟩

theorem run_pc_inside (limit : Nat) (inbox : List α) (hp : p.LabelsInside) :
    0 ≤ (run p limit inbox).left.pc ∧ (run p limit inbox).left.pc ≤ p.size := by
  obtain ⟨c, hs, hstate, -⟩ := exists_steps_executed p limit inbox
  rw [Stopped.left_pc, hstate]
  exact hs.pc_inside_start hp

theorem run_pc_eq_size {limit : Nat} {inbox : List α} {r : Result α} (hp : p.LabelsInside)
    (h : (run p limit inbox).result = .ok r) : (run p limit inbox).left.pc = p.size := by
  obtain ⟨is, c, hfin, hl, -⟩ := run_result_eq_ok_iff.mp h
  rw [hfin.run_eq hl]
  exact hfin.pc_eq_size hp

end Machine

namespace Program

/-- **Loaded programs are safe to run.** The labels of a loaded program are the names that its
source declares, each once, and lead into the program or to its end, the later ones never to before
the earlier. In a run, control is in the program or at its end after every instruction, and a run
that finishes is at the end. A run fails for want of input, of a value in hand, of a label that the
source does not declare, or of cycles, and for nothing else. -/
theorem load_safe_to_run (header source : String) (p : Program)
    (h : load header source = .ok p) :
    (∀ l ∈ p.labels, 0 ≤ l.2 ∧ l.2 ≤ p.size) ∧
    p.labels.map Prod.fst = declarations source ∧ (p.labels.map Prod.fst).Nodup ∧
    (p.labels.map Prod.snd).Pairwise (· ≤ ·) ∧
    ∀ (α : Type) (limit : Nat) (inbox : List α),
      let s := Machine.run p limit inbox
      (∀ done, done <+: Machine.executed p limit inbox →
        ∃ c, Machine.Steps p (.start inbox) done c ∧ 0 ≤ c.state.pc ∧ c.state.pc ≤ p.size) ∧
      (0 ≤ s.left.pc ∧ s.left.pc ≤ p.size) ∧
      (∀ r, s.result = .ok r → s.left.pc = p.size) ∧
      ∀ fault, s.result = .error fault →
        fault = .endOfInput ∨ fault = .emptyAccumulator ∨
        (∃ label, fault = .undefinedLabel label ∧ label ∉ declarations source) ∨
        fault = .cycleLimit limit := by
  have hp := wellFormed_of_load h
  have hnames := map_fst_labels_of_load h
  refine ⟨hp.inside, hnames, hp.distinct, List.pairwise_map.mpr hp.ordered, ?_⟩
  intro α limit inbox s
  refine ⟨fun done hdone => Machine.executed_pc_inside hp.labelsInside hdone,
    Machine.run_pc_inside limit inbox hp.labelsInside,
    fun r hr => Machine.run_pc_eq_size hp.labelsInside hr, fun fault hfault => ?_⟩
  have hcases := Machine.run_fault_of_wellFormed hp hfault
  rw [hnames] at hcases
  exact hcases

/-- A source with a label past its last instruction and a jump to a name that it does not
declare. -/
theorem load_safe_to_run_to_lost_label :
    ∃ p, load "HRM" "HRM\nstart:\nINBOX\nJUMP lost\nOUTBOX\nend:\n" = .ok p ∧
      p.labels = [("start", 0), ("end", 3)] ∧
      (Machine.run p 9 [7]).result = .error (.undefinedLabel "lost") ∧
      "lost" ∉ declarations "HRM\nstart:\nINBOX\nJUMP lost\nOUTBOX\nend:\n" := by
  refine ⟨⟨[.instruction .inbox, .instruction (.jump "lost"), .instruction .outbox],
    [("start", 0), ("end", 3)]⟩, rfl, rfl, rfl, ?_⟩
  obtain ⟨-, -, -, -, hrun⟩ := load_safe_to_run "HRM"
    "HRM\nstart:\nINBOX\nJUMP lost\nOUTBOX\nend:\n" _ rfl
  obtain ⟨-, -, -, hfault⟩ := hrun Nat 9 [7]
  rcases hfault (.undefinedLabel "lost") rfl with heq | heq | ⟨label, heq, hnot⟩ | heq
  · cases heq
  · cases heq
  · cases heq
    exact hnot
  · cases heq

end Program

end Mailroom
