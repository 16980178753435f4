import Mailroom.Machine.Run

/-!
# Runs, instruction by instruction

`step` and `runFrom` compute. This file says the same in rules: `Does` is one instruction that is
done, `Fails` is one that is not, `Steps` is a list of instructions done one after the other, and
`Ends` is a whole run under a limit. Each rule names all that it reads and all that it leaves, so
the proofs about runs are inductions over `Steps` and never open `step` again.

The two sides agree: `step_eq_next_iff`, `step_eq_failed_iff` and `step_eq_halted_iff` for one
instruction, `runFrom_eq_iff` for a run.
-/

set_option autoImplicit false

namespace Mailroom.Machine

variable {α : Type} {p : Program}

/-! ## One instruction -/

/-- At `c` the program has the instruction, and doing it leads to the second configuration. -/
inductive Does (p : Program) (c : Config α) : Instruction → Config α → Prop where
  | inbox {v : α} {rest : List α}
      (hs : p.slot? c.state.pc = some (.instruction .inbox)) (hi : c.inbox = v :: rest) :
      Does p c .inbox
        { state :=
            { pc := c.state.pc + 1, acc := some v, cycles := c.state.cycles + 1,
              output := c.state.output }
          inbox := rest
          log := .took v :: .fetch c.state.pc (.instruction .inbox) :: c.log }
  | outbox {v : α}
      (hs : p.slot? c.state.pc = some (.instruction .outbox)) (ha : c.state.acc = some v) :
      Does p c .outbox
        { state :=
            { pc := c.state.pc + 1, acc := none, cycles := c.state.cycles + 1,
              output := c.state.output ++ [v] }
          inbox := c.inbox
          log := .gave v :: .fetch c.state.pc (.instruction .outbox) :: c.log }
  | jump {label : String} {address : Int}
      (hs : p.slot? c.state.pc = some (.instruction (.jump label)))
      (hl : p.address? label = some address) :
      Does p c (.jump label)
        { state :=
            { pc := address, acc := c.state.acc, cycles := c.state.cycles + 1,
              output := c.state.output }
          inbox := c.inbox
          log := .jumping label :: .fetch c.state.pc (.instruction (.jump label)) :: c.log }

/-- What is at `c` cannot be done, and the log is all that changes. -/
inductive Fails (p : Program) (c : Config α) : Fault → Config α → Prop where
  | endOfInput (hs : p.slot? c.state.pc = some (.instruction .inbox)) (hi : c.inbox = []) :
      Fails p c .endOfInput (c.note (.fetch c.state.pc (.instruction .inbox)))
  | emptyAccumulator
      (hs : p.slot? c.state.pc = some (.instruction .outbox)) (ha : c.state.acc = none) :
      Fails p c .emptyAccumulator (c.note (.fetch c.state.pc (.instruction .outbox)))
  | undefinedLabel {label : String}
      (hs : p.slot? c.state.pc = some (.instruction (.jump label)))
      (hl : p.address? label = none) :
      Fails p c (.undefinedLabel label)
        ((c.note (.fetch c.state.pc (.instruction (.jump label)))).note (.jumping label))
  | notInstruction {content : Data} (hs : p.slot? c.state.pc = some (.foreign content)) :
      Fails p c (.notInstruction content.kindName) (c.note (.fetch c.state.pc (.foreign content)))

theorem Does.step_eq {c c' : Config α} {i : Instruction} (h : Does p c i c') :
    step p c = .next c' := by
  cases h with
  | inbox hs hi => simp [step, hs, execute, doInbox, Config.note, hi]
  | outbox hs ha => simp [step, hs, execute, doOutbox, Config.note, ha]
  | jump hs hl => simp [step, hs, execute, doJump, Config.note, Config.withState, hl]

theorem Fails.step_eq {c d : Config α} {f : Fault} (h : Fails p c f d) :
    step p c = .failed f d := by
  cases h with
  | endOfInput hs hi => simp [step, hs, execute, doInbox, Config.note, hi]
  | emptyAccumulator hs ha => simp [step, hs, execute, doOutbox, Config.note, ha]
  | undefinedLabel hs hl => simp [step, hs, execute, doJump, Config.note, hl]
  | notInstruction hs => simp [step, hs, execute]

theorem does_or_fails {c : Config α} {slot : Slot} (hs : p.slot? c.state.pc = some slot) :
    (∃ i c', Does p c i c') ∨ ∃ f d, Fails p c f d := by
  cases slot with
  | foreign content => exact Or.inr ⟨_, _, .notInstruction hs⟩
  | instruction i =>
    cases i with
    | inbox =>
      cases hi : c.inbox with
      | nil => exact Or.inr ⟨_, _, .endOfInput hs hi⟩
      | cons v rest => exact Or.inl ⟨_, _, .inbox hs hi⟩
    | outbox =>
      cases ha : c.state.acc with
      | none => exact Or.inr ⟨_, _, .emptyAccumulator hs ha⟩
      | some v => exact Or.inl ⟨_, _, .outbox hs ha⟩
    | jump label =>
      cases hl : p.address? label with
      | none => exact Or.inr ⟨_, _, .undefinedLabel hs hl⟩
      | some address => exact Or.inl ⟨_, _, .jump hs hl⟩

theorem step_of_no_slot {c : Config α} (hs : p.slot? c.state.pc = none) :
    step p c = .halted := by
  simp [step, hs]

theorem step_eq_halted_iff {c : Config α} : step p c = .halted ↔ p.slot? c.state.pc = none := by
  refine ⟨fun h => ?_, step_of_no_slot⟩
  cases hs : p.slot? c.state.pc with
  | none => rfl
  | some slot =>
    rcases does_or_fails hs with ⟨i, d, hd⟩ | ⟨f, d, hf⟩
    · rw [hd.step_eq] at h
      cases h
    · rw [hf.step_eq] at h
      cases h

theorem step_eq_next_iff {c c' : Config α} : step p c = .next c' ↔ ∃ i, Does p c i c' := by
  refine ⟨fun h => ?_, fun ⟨i, h⟩ => h.step_eq⟩
  cases hs : p.slot? c.state.pc with
  | none =>
    rw [step_of_no_slot hs] at h
    cases h
  | some slot =>
    rcases does_or_fails hs with ⟨i, d, hd⟩ | ⟨f, d, hf⟩
    · rw [hd.step_eq] at h
      cases h
      exact ⟨i, hd⟩
    · rw [hf.step_eq] at h
      cases h

theorem step_eq_failed_iff {c d : Config α} {f : Fault} :
    step p c = .failed f d ↔ Fails p c f d := by
  refine ⟨fun h => ?_, Fails.step_eq⟩
  cases hs : p.slot? c.state.pc with
  | none =>
    rw [step_of_no_slot hs] at h
    cases h
  | some slot =>
    rcases does_or_fails hs with ⟨i, d', hd⟩ | ⟨f', d', hf⟩
    · rw [hd.step_eq] at h
      cases h
    · rw [hf.step_eq] at h
      cases h
      exact hf

theorem Does.slot {c c' : Config α} {i : Instruction} (h : Does p c i c') :
    p.slot? c.state.pc = some (.instruction i) := by
  cases h <;> assumption

theorem Does.cycles {c c' : Config α} {i : Instruction} (h : Does p c i c') :
    c'.state.cycles = c.state.cycles + 1 := by
  cases h <;> rfl

theorem Does.unique {c c₁ c₂ : Config α} {i j : Instruction} (h₁ : Does p c i c₁)
    (h₂ : Does p c j c₂) : i = j ∧ c₁ = c₂ := by
  have hslot := h₁.slot.symm.trans h₂.slot
  have hnext := h₁.step_eq.symm.trans h₂.step_eq
  simp only [Option.some.injEq, Slot.instruction.injEq] at hslot
  simp only [Outcome.next.injEq] at hnext
  exact ⟨hslot, hnext⟩

theorem Fails.state {c d : Config α} {f : Fault} (h : Fails p c f d) : d.state = c.state := by
  cases h <;> rfl

theorem Fails.inbox {c d : Config α} {f : Fault} (h : Fails p c f d) : d.inbox = c.inbox := by
  cases h <;> rfl

/-! ## Instructions in a row -/

/-- The instructions of the list are done one after the other and lead from the first configuration
to the second. -/
inductive Steps (p : Program) : Config α → List Instruction → Config α → Prop where
  | nil (c : Config α) : Steps p c [] c
  | cons {c c' c'' : Config α} {i : Instruction} {is : List Instruction}
      (hd : Does p c i c') (hr : Steps p c' is c'') : Steps p c (i :: is) c''

theorem Steps.append {c c' c'' : Config α} {is js : List Instruction} (h₁ : Steps p c is c')
    (h₂ : Steps p c' js c'') : Steps p c (is ++ js) c'' := by
  induction h₁ with
  | nil c => exact h₂
  | cons hd _ ih => exact .cons hd (ih h₂)

theorem Steps.split {c c'' : Config α} {js : List Instruction} :
    ∀ {is : List Instruction}, Steps p c (is ++ js) c'' →
      ∃ c', Steps p c is c' ∧ Steps p c' js c'' := by
  intro is
  induction is generalizing c with
  | nil => intro h; exact ⟨c, .nil c, h⟩
  | cons i is ih =>
    intro h
    cases h with
    | cons hd hr =>
      obtain ⟨c', h₁, h₂⟩ := ih hr
      exact ⟨c', .cons hd h₁, h₂⟩

theorem Steps.exists_last {n : Nat} {c c' : Config α} {is : List Instruction}
    (h : Steps p c is c') (hlen : is.length = n + 1) :
    ∃ front last d, n = front.length ∧ Steps p c front d ∧ Does p d last c' := by
  obtain ⟨front, last, rfl⟩ : ∃ front last, is = front ++ [last] := by
    rcases List.eq_nil_or_concat is with rfl | ⟨front, last, rfl⟩
    · simp at hlen
    · exact ⟨front, last, by simp⟩
  obtain ⟨d, hfront, hrest⟩ := h.split
  cases hrest with
  | cons hd hr =>
    cases hr
    exact ⟨front, last, d, by simpa using hlen.symm, hfront, hd⟩

/-- What holds at the start with nothing done, and is kept by every instruction, holds all along. -/
theorem Steps.invariant {c₀ : Config α} {motive : List Instruction → Config α → Prop}
    (start : motive [] c₀)
    (keep : ∀ {is i c c'}, motive is c → Does p c i c' → motive (is ++ [i]) c')
    {is : List Instruction} {c : Config α} (h : Steps p c₀ is c) : motive is c := by
  -- the instructions already done are put in front of the list that the induction shortens
  have onward : ∀ {c is c'}, Steps p c is c' → ∀ done, motive done c → motive (done ++ is) c' := by
    intro c is c' hs
    induction hs with
    | nil c => intro done hm; simpa using hm
    | cons hd _ ih =>
      intro done hm
      simpa using ih _ (keep hm hd)
  simpa using onward h [] start

theorem Steps.cycles {c c' : Config α} {is : List Instruction} (h : Steps p c is c') :
    c'.state.cycles = c.state.cycles + is.length := by
  induction h with
  | nil c => simp
  | cons hd _ ih =>
    rw [ih, hd.cycles, List.length_cons]
    omega

theorem Steps.cycles_start {inbox : List α} {c : Config α} {is : List Instruction}
    (h : Steps p (.start inbox) is c) : c.state.cycles = is.length := by
  rw [h.cycles]
  exact Nat.zero_add _

theorem Steps.unique_of_halted {c c₁ c₂ : Config α} {is js : List Instruction}
    (h₁ : Steps p c is c₁) (h₂ : Steps p c js c₂) (hh₁ : p.slot? c₁.state.pc = none)
    (hh₂ : p.slot? c₂.state.pc = none) : is = js ∧ c₁ = c₂ := by
  induction h₁ generalizing js with
  | nil c =>
    cases h₂ with
    | nil => exact ⟨rfl, rfl⟩
    | cons hd _ => rw [hd.slot] at hh₁; cases hh₁
  | cons hd _ ih =>
    cases h₂ with
    | nil => rw [hd.slot] at hh₂; cases hh₂
    | cons hd' hr' =>
      obtain ⟨rfl, rfl⟩ := hd.unique hd'
      obtain ⟨rfl, rfl⟩ := ih hr' hh₁
      exact ⟨rfl, rfl⟩

/-! ## Whole runs -/

/-- How a run that starts at `c` with `budget` more instructions allowed is over: it has come to a
halt, an instruction has failed, or one instruction more than allowed has been done. -/
inductive Ends (p : Program) (limit budget : Nat) (c : Config α) : Stopped α → Prop where
  | finished {is : List Instruction} {c' : Config α} (hs : Steps p c is c')
      (hh : p.slot? c'.state.pc = none) (hb : is.length ≤ budget) :
      Ends p limit budget c ⟨none, c'⟩
  | failed {is : List Instruction} {c' d : Config α} {f : Fault} (hs : Steps p c is c')
      (hf : Fails p c' f d) (hb : is.length ≤ budget) :
      Ends p limit budget c ⟨some f, d⟩
  | exceeded {is : List Instruction} {c' : Config α} (hs : Steps p c is c')
      (hb : is.length = budget + 1) :
      Ends p limit budget c ⟨some (.cycleLimit limit), c'⟩

theorem runFrom_of_halted {limit budget : Nat} {c : Config α}
    (hh : p.slot? c.state.pc = none) : runFrom p limit budget c = ⟨none, c⟩ := by
  cases budget <;> simp [runFrom, step_of_no_slot hh]

theorem runFrom_of_fails {limit budget : Nat} {c d : Config α} {f : Fault}
    (hf : Fails p c f d) : runFrom p limit budget c = ⟨some f, d⟩ := by
  cases budget <;> simp [runFrom, hf.step_eq]

theorem Does.runFrom_succ {limit budget : Nat} {c c' : Config α} {i : Instruction}
    (hd : Does p c i c') : runFrom p limit (budget + 1) c = runFrom p limit budget c' := by
  simp [runFrom, hd.step_eq]

theorem Steps.runFrom_add {limit budget : Nat} {c c' : Config α} {is : List Instruction}
    (hs : Steps p c is c') :
    runFrom p limit (is.length + budget) c = runFrom p limit budget c' := by
  induction hs with
  | nil c => simp
  | cons hd _ ih =>
    rw [List.length_cons, Nat.add_right_comm, hd.runFrom_succ, ih]

theorem Ends.runFrom_eq {limit budget : Nat} {c : Config α} {s : Stopped α}
    (h : Ends p limit budget c s) : runFrom p limit budget c = s := by
  cases h with
  | finished hs hh hb =>
    obtain ⟨left, rfl⟩ := Nat.exists_eq_add_of_le hb
    rw [hs.runFrom_add, runFrom_of_halted hh]
  | failed hs hf hb =>
    obtain ⟨left, rfl⟩ := Nat.exists_eq_add_of_le hb
    rw [hs.runFrom_add, runFrom_of_fails hf]
  | @exceeded is c' hs hb =>
    -- the last instruction is the one that the limit does not allow
    obtain ⟨front, last, d, rfl, hfront, hlast⟩ := hs.exists_last hb
    rw [← Nat.add_zero front.length, hfront.runFrom_add]
    simp [runFrom, hlast.step_eq]

theorem does_or_ends (p : Program) (limit budget : Nat) (c : Config α) :
    (∃ i c', Does p c i c') ∨ Ends p limit budget c (runFrom p limit budget c) := by
  cases hs : p.slot? c.state.pc with
  | none =>
    rw [runFrom_of_halted hs]
    exact Or.inr (.finished (.nil c) hs (Nat.zero_le _))
  | some slot =>
    rcases does_or_fails hs with hd | ⟨f, d, hf⟩
    · exact Or.inl hd
    · rw [runFrom_of_fails hf]
      exact Or.inr (.failed (.nil c) hf (Nat.zero_le _))

theorem ends_runFrom (p : Program) (limit budget : Nat) (c : Config α) :
    Ends p limit budget c (runFrom p limit budget c) := by
  induction budget generalizing c with
  | zero =>
    rcases does_or_ends p limit 0 c with ⟨i, c', hd⟩ | he
    · have hr : runFrom p limit 0 c = ⟨some (.cycleLimit limit), c'⟩ := by
        simp [runFrom, hd.step_eq]
      rw [hr]
      exact .exceeded (.cons hd (.nil c')) rfl
    · exact he
  | succ budget ih =>
    rcases does_or_ends p limit (budget + 1) c with ⟨i, c', hd⟩ | he
    · rw [hd.runFrom_succ]
      have hrest := ih c'
      generalize runFrom p limit budget c' = s at hrest ⊢
      cases hrest with
      | finished hs hh hb => exact .finished (.cons hd hs) hh (Nat.succ_le_succ hb)
      | failed hs hf hb => exact .failed (.cons hd hs) hf (Nat.succ_le_succ hb)
      | exceeded hs hb => exact .exceeded (.cons hd hs) (congrArg Nat.succ hb)
    · exact he

/-- A run computes what the rules say, and the rules say it of nothing else. -/
theorem runFrom_eq_iff {limit budget : Nat} {c : Config α} {s : Stopped α} :
    runFrom p limit budget c = s ↔ Ends p limit budget c s := by
  refine ⟨fun h => ?_, Ends.runFrom_eq⟩
  rw [← h]
  exact ends_runFrom p limit budget c

theorem runFrom_invariant {motive : Config α → Prop} {limit budget : Nat} {c : Config α}
    (does : ∀ {i c c'}, Does p c i c' → motive c → motive c')
    (fails : ∀ {f c d}, Fails p c f d → motive c → motive d) (start : motive c) :
    motive (runFrom p limit budget c).final := by
  have onward : ∀ {is c'}, Steps p c is c' → motive c' := by
    intro is c' hs
    induction hs with
    | nil c => exact start
    | cons hd _ ih => exact ih (does hd start)
  have hends := ends_runFrom p limit budget c
  generalize runFrom p limit budget c = s at hends ⊢
  cases hends with
  | finished hs hh hb => exact onward hs
  | failed hs hf hb => exact fails hf (onward hs)
  | exceeded hs hb => exact onward hs

theorem State.reset_eq (s : State α) : s.reset = .initial := rfl

theorem rerun_eq_run (p : Program) (limit : Nat) (state : State α) (inbox : List α) :
    rerun p limit state inbox = run p limit inbox := by
  rw [rerun, State.reset_eq]
  rfl

/-! ## The instructions of a run -/

/-- The instructions that are done from a configuration on, at most so many. -/
def trace (p : Program) : Nat → Config α → List Instruction
  | 0, _ => []
  | n + 1, c =>
    match p.slot? c.state.pc, step p c with
    | some (.instruction i), .next c' => i :: trace p n c'
    | _, _ => []

/-- The instructions that a run does. It does one more than the limit before it is stopped. -/
def executed (p : Program) (limit : Nat) (inbox : List α) : List Instruction :=
  trace p (limit + 1) (.start inbox)

theorem Steps.trace_add {n : Nat} {c c' : Config α} {is : List Instruction}
    (hs : Steps p c is c') : trace p (is.length + n) c = is ++ trace p n c' := by
  induction hs with
  | nil c => simp
  | cons hd _ ih =>
    rw [List.length_cons, Nat.add_right_comm, trace, hd.slot, hd.step_eq]
    simp only [ih, List.cons_append]

theorem trace_of_halted {n : Nat} {c : Config α} (hh : p.slot? c.state.pc = none) :
    trace p n c = [] := by
  cases n <;> simp [trace, hh]

theorem trace_of_fails {n : Nat} {c d : Config α} {f : Fault} (hf : Fails p c f d) :
    trace p n c = [] := by
  cases n <;> simp [trace, hf.step_eq]

theorem exists_steps_executed (p : Program) (limit : Nat) (inbox : List α) :
    ∃ c, Steps p (.start inbox) (executed p limit inbox) c ∧
      (run p limit inbox).final.state = c.state ∧ (run p limit inbox).final.inbox = c.inbox := by
  have hends : Ends p limit limit (.start inbox) (run p limit inbox) := ends_runFrom p limit limit _
  unfold executed
  generalize run p limit inbox = s at hends ⊢
  cases hends with
  | @finished is c hs hh hb =>
    obtain ⟨left, hleft⟩ := Nat.exists_eq_add_of_le hb
    rw [hleft, Nat.add_assoc, hs.trace_add, trace_of_halted hh, List.append_nil]
    exact ⟨c, hs, rfl, rfl⟩
  | @failed is c d f hs hf hb =>
    obtain ⟨left, hleft⟩ := Nat.exists_eq_add_of_le hb
    rw [hleft, Nat.add_assoc, hs.trace_add, trace_of_fails hf, List.append_nil]
    exact ⟨c, hs, hf.state, hf.inbox⟩
  | @exceeded is c hs hb =>
    rw [← hb, ← Nat.add_zero is.length, hs.trace_add, trace, List.append_nil]
    exact ⟨c, hs, rfl, rfl⟩

/-! ## Runs that finish

Without a limit there is still one way only in which a program finishes on an inbox; the limit
decides whether the run gets there. -/

/-- On the inbox, the program does the instructions and then halts at the configuration. -/
structure Finishes (p : Program) (inbox : List α) (is : List Instruction) (c : Config α) :
    Prop where
  steps : Steps p (.start inbox) is c
  halted : p.slot? c.state.pc = none

theorem Finishes.unique {inbox : List α} {is js : List Instruction} {c d : Config α}
    (h₁ : Finishes p inbox is c) (h₂ : Finishes p inbox js d) : is = js ∧ c = d :=
  h₁.steps.unique_of_halted h₂.steps h₁.halted h₂.halted

theorem Finishes.cycles {inbox : List α} {is : List Instruction} {c : Config α}
    (h : Finishes p inbox is c) : c.state.cycles = is.length := h.steps.cycles_start

theorem Finishes.run_eq {inbox : List α} {is : List Instruction} {c : Config α} {limit : Nat}
    (h : Finishes p inbox is c) (hl : is.length ≤ limit) : run p limit inbox = ⟨none, c⟩ :=
  Ends.runFrom_eq (.finished h.steps h.halted hl)

theorem Finishes.result_eq {inbox : List α} {is : List Instruction} {c : Config α} {limit : Nat}
    (h : Finishes p inbox is c) (hl : is.length ≤ limit) :
    (run p limit inbox).result = .ok ⟨is.length, c.state.output⟩ := by
  rw [h.run_eq hl, Stopped.result, h.cycles]

theorem exists_finishes {inbox : List α} {limit : Nat} (h : (run p limit inbox).fault = none) :
    ∃ is c, Finishes p inbox is c ∧ is.length ≤ limit := by
  have hends : Ends p limit limit (.start inbox) (run p limit inbox) := ends_runFrom p limit limit _
  generalize run p limit inbox = s at h hends
  cases hends with
  | finished hs hh hb => exact ⟨_, _, ⟨hs, hh⟩, hb⟩
  | failed hs hf hb => cases h
  | exceeded hs hb => cases h

/-- A result is that of the one way to finish, and the limit must leave room for it. -/
theorem run_result_eq_ok_iff {inbox : List α} {limit : Nat} {r : Result α} :
    (run p limit inbox).result = .ok r ↔
      ∃ is c, Finishes p inbox is c ∧ is.length ≤ limit ∧ r = ⟨is.length, c.state.output⟩ := by
  constructor
  · intro hr
    have hfault : (run p limit inbox).fault = none := by
      unfold Stopped.result at hr
      split at hr
      · assumption
      · cases hr
    obtain ⟨is, c, h, hl⟩ := exists_finishes hfault
    rw [h.result_eq hl] at hr
    exact ⟨is, c, h, hl, (Except.ok.inj hr).symm⟩
  · rintro ⟨is, c, h, hl, rfl⟩
    exact h.result_eq hl

end Mailroom.Machine
