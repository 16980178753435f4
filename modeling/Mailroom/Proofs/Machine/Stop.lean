import Mailroom.Proofs.Machine.Limit
import Mailroom.Proofs.Program.Grammar

/-!
# Why a run stopped

The state that a run leaves behind tells why the run stopped there. It is the state after the
instructions that were done and no others: an instruction that fails changes nothing, so what it
failed on is still to be seen. `advance?` does a number of instructions without a limit and is the
measure of what was done.

`Fault.Explained` says for each fault what must be seen at the configuration, and
`Fails.explained` that it is seen wherever an instruction fails. A run that exceeds its limit is the
odd one: there the last instruction was done.
-/

set_option autoImplicit false

namespace Mailroom.Machine

variable {α : Type} {p : Program}

/-! ## A number of instructions -/

/-- The configuration after exactly so many instructions, if all of them can be done. -/
def advance? (p : Program) : Nat → Config α → Option (Config α)
  | 0, c => some c
  | n + 1, c =>
    match step p c with
    | .next c' => advance? p n c'
    | _ => none

theorem Steps.advance?_eq {c c' : Config α} {is : List Instruction} (h : Steps p c is c') :
    advance? p is.length c = some c' := by
  induction h with
  | nil c => rfl
  | cons hd _ ih =>
    rw [List.length_cons, advance?, hd.step_eq]
    exact ih

theorem Steps.advance?_cycles {inbox : List α} {c : Config α} {is : List Instruction}
    (h : Steps p (.start inbox) is c) : advance? p c.state.cycles (.start inbox) = some c := by
  rw [h.cycles_start, h.advance?_eq]

/-! ## What a fault says -/

/-- What is seen at the configuration `c`, that a machine has come to from `start`, when it stops
there with the fault. -/
def Fault.Explained (p : Program) (limit : Nat) (start c : Config α) : Fault → Prop
  | .endOfInput =>
    p.slot? c.state.pc = some (.instruction .inbox) ∧ c.inbox = [] ∧ c.state.cycles ≤ limit
  | .emptyAccumulator =>
    p.slot? c.state.pc = some (.instruction .outbox) ∧ c.state.acc = none ∧
      c.state.cycles ≤ limit
  | .undefinedLabel label =>
    p.slot? c.state.pc = some (.instruction (.jump label)) ∧ label ∉ p.labels.map Prod.fst ∧
      c.state.cycles ≤ limit
  | .notInstruction kind =>
    ∃ content, p.slot? c.state.pc = some (.foreign content) ∧ content.kindName = kind ∧
      c.state.cycles ≤ limit
  | .cycleLimit n =>
    n = limit ∧ c.state.cycles = limit + 1 ∧
      ∃ d, advance? p limit start = some d ∧ step p d = .next c

theorem Fails.explained {limit : Nat} {start c d : Config α} {f : Fault} (h : Fails p c f d)
    (hl : c.state.cycles ≤ limit) : f.Explained p limit start c := by
  cases h with
  | endOfInput hs hi => exact ⟨hs, hi, hl⟩
  | emptyAccumulator hs ha => exact ⟨hs, ha, hl⟩
  | undefinedLabel hs hlabel => exact ⟨hs, Program.address?_eq_none_iff.mp hlabel, hl⟩
  | notInstruction hs => exact ⟨_, hs, rfl, hl⟩

theorem Steps.exceeded_explained {limit : Nat} {inbox : List α} {c : Config α}
    {is : List Instruction} (h : Steps p (.start inbox) is c) (hlen : is.length = limit + 1) :
    (Fault.cycleLimit limit).Explained p limit (.start inbox) c := by
  refine ⟨rfl, by rw [h.cycles_start, hlen], ?_⟩
  obtain ⟨front, last, d, rfl, hfront, hd⟩ := h.exists_last hlen
  exact ⟨d, hfront.advance?_eq, hd.step_eq⟩

/-- **The state that is left explains the result.** Whatever the machine held before, a run leaves
it as it is after a reset and as many instructions as it has counted cycles. Where the run finished,
the outbox has gone into the result and the program counter is outside of the program. Where it
failed, the instruction that failed has changed nothing and what it failed on is there to be seen;
where it exceeded the limit, the last instruction has been done. -/
theorem rerun_left_explains_result (p : Program) (limit : Nat) (before : State α)
    (inbox : List α) :
    let s := rerun p limit before inbox
    let start : Config α := ⟨before.reset, inbox, []⟩
    ∃ c, advance? p s.left.cycles start = some c ∧ s.rest = c.inbox ∧
      (∀ r, s.result = .ok r →
        r = ⟨c.state.cycles, c.state.output⟩ ∧ s.left = { c.state with output := [] } ∧
          (s.left.pc < 0 ∨ p.size ≤ s.left.pc) ∧ s.left.cycles ≤ limit) ∧
      ∀ f, s.result = .error f → s.left = c.state ∧ f.Explained p limit start c := by
  intro s start
  have hs : s = run p limit inbox := rerun_eq_run p limit before inbox
  rw [hs]
  rcases run_stops_or_exceeds p limit inbox with ⟨is, hle, hstops⟩ | ⟨is, c, hlen, hsteps, hrun⟩
  · generalize run p limit inbox = t at hstops ⊢
    cases hstops with
    | @halted c hsteps hh =>
      have hcycles := hsteps.cycles_start
      refine ⟨c, hsteps.advance?_cycles, rfl, ?_, ?_⟩
      · rintro r ⟨⟩
        exact ⟨rfl, rfl, Program.slot?_eq_none_iff.mp hh, hcycles ▸ hle⟩
      · rintro f ⟨⟩
    | @failed c d f hsteps hf =>
      -- a fault leaves the state as the last instruction left it
      have hcycles : c.state.cycles ≤ limit := hsteps.cycles_start ▸ hle
      refine ⟨c, ?_, hf.inbox, ?_, ?_⟩
      · rw [Stopped.left_cycles, hf.state]
        exact hsteps.advance?_cycles
      · rintro r ⟨⟩
      · rintro f' ⟨⟩
        exact ⟨hf.state, hf.explained hcycles⟩
  · rw [hrun]
    refine ⟨c, hsteps.advance?_cycles, rfl, ?_, ?_⟩
    · rintro r ⟨⟩
    · rintro f ⟨⟩
      exact ⟨rfl, hsteps.exceeded_explained hlen⟩

end Mailroom.Machine
