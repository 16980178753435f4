import Mailroom.Proofs.Machine.Control
import Mailroom.Proofs.Machine.Order

/-!
# The cycle limit

A program on an inbox either stops by itself, at its end or at an instruction that fails, or it goes
on for ever. `Stops` is the first, and it does not mention a limit. The limit only decides how much
of this is seen: a run that is given the instructions up to the stop is that stop (`Stops.run_eq`),
and every other run is cut off after one instruction more than it was given
(`Steps.run_eq_exceeded`).

A limit of at least the size of the program is never what stands between a program and its end. A
run that exceeds it has done more instructions than there are slots, so control goes round for ever,
and it does so on every inbox.
-/

set_option autoImplicit false

namespace Mailroom.Machine

variable {α : Type} {p : Program} {inbox : List α} {is : List Instruction}

theorem Stopped.result_eq_error_iff {s : Stopped α} {f : Fault} :
    s.result = .error f ↔ s.fault = some f := by
  unfold Stopped.result
  cases s.fault <;> simp

/-! ## Stopping without a limit -/

/-- On the inbox, the program does the instructions and then stops by itself. -/
inductive Stops (p : Program) (inbox : List α) (is : List Instruction) : Stopped α → Prop where
  | halted {c : Config α} (hs : Steps p (.start inbox) is c) (hh : p.slot? c.state.pc = none) :
      Stops p inbox is ⟨none, c⟩
  | failed {c d : Config α} {f : Fault} (hs : Steps p (.start inbox) is c)
      (hf : Fails p c f d) : Stops p inbox is ⟨some f, d⟩

theorem Fails.ne_cycleLimit {c d : Config α} {f : Fault} (h : Fails p c f d) (limit : Nat) :
    f ≠ .cycleLimit limit := by
  rintro rfl
  cases h

theorem Stops.steps {s : Stopped α} (h : Stops p inbox is s) :
    ∃ c, Steps p (.start inbox) is c ∧ s.final.state = c.state := by
  cases h with
  | halted hs hh => exact ⟨_, hs, rfl⟩
  | failed hs hf => exact ⟨_, hs, hf.state⟩

theorem Stops.cycles {s : Stopped α} (h : Stops p inbox is s) : s.left.cycles = is.length := by
  obtain ⟨c, hs, hstate⟩ := h.steps
  rw [s.left_cycles, hstate, hs.cycles_start]

theorem Stops.result_ne {s : Stopped α} (h : Stops p inbox is s) (limit : Nat) :
    s.result ≠ .error (.cycleLimit limit) := by
  rw [Ne, Stopped.result_eq_error_iff]
  cases h with
  | halted hs hh => simp
  | failed hs hf =>
    intro heq
    exact hf.ne_cycleLimit limit (Option.some.inj heq)

/-! ## Runs under a limit -/

theorem Stops.run_eq {s : Stopped α} {limit : Nat} (h : Stops p inbox is s)
    (hl : is.length ≤ limit) : run p limit inbox = s := by
  apply Ends.runFrom_eq
  cases h with
  | halted hs hh => exact .finished hs hh hl
  | failed hs hf => exact .failed hs hf hl

/-- A run that is given less than it could do is cut off after one instruction more than that. -/
theorem Steps.run_eq_exceeded {c : Config α} {limit : Nat} (h : Steps p (.start inbox) is c)
    (hl : limit < is.length) :
    ∃ d, Steps p (.start inbox) (is.take (limit + 1)) d ∧
      run p limit inbox = ⟨some (.cycleLimit limit), d⟩ := by
  have hlen : (is.take (limit + 1)).length = limit + 1 := by
    rw [List.length_take]
    omega
  rw [← List.take_append_drop (limit + 1) is] at h
  obtain ⟨d, hd, -⟩ := h.split
  exact ⟨d, hd, Ends.runFrom_eq (.exceeded hd hlen)⟩

theorem run_stops_or_exceeds (p : Program) (limit : Nat) (inbox : List α) :
    (∃ is, is.length ≤ limit ∧ Stops p inbox is (run p limit inbox)) ∨
      ∃ is c, is.length = limit + 1 ∧ Steps p (.start inbox) is c ∧
        run p limit inbox = ⟨some (.cycleLimit limit), c⟩ := by
  have hends : Ends p limit limit (.start inbox) (run p limit inbox) := ends_runFrom p limit limit _
  generalize run p limit inbox = s at hends ⊢
  cases hends with
  | finished hs hh hb => exact Or.inl ⟨_, hb, .halted hs hh⟩
  | failed hs hf hb => exact Or.inl ⟨_, hb, .failed hs hf⟩
  | exceeded hs hb => exact Or.inr ⟨_, _, hb, hs, rfl⟩

theorem exists_steps_of_exceeded {limit limit' : Nat}
    (h : (run p limit inbox).result = .error (.cycleLimit limit')) :
    ∃ is c, is.length = limit + 1 ∧ Steps p (.start inbox) is c := by
  rcases run_stops_or_exceeds p limit inbox with ⟨is, -, hstops⟩ | ⟨is, c, hlen, hs, -⟩
  · exact absurd h (hstops.result_ne limit')
  · exact ⟨is, c, hlen, hs⟩

/-- **The cycle limit only truncates.** A run does at most one instruction more than the limit, and
it does that many exactly when it exceeds it. One that does not exceed its limit is the same run
under every limit that its cycles fit in, and under every other limit it is cut off. -/
theorem limit_only_truncates (p : Program) (limit : Nat) (inbox : List α) :
    let s := run p limit inbox
    s.left.cycles ≤ limit + 1 ∧
    (s.left.cycles = limit + 1 ↔ s.result = .error (.cycleLimit limit)) ∧
    (s.result ≠ .error (.cycleLimit limit) →
      (∀ limit', s.left.cycles ≤ limit' → run p limit' inbox = s) ∧
      ∀ limit', limit' < s.left.cycles →
        (run p limit' inbox).result = .error (.cycleLimit limit') ∧
          (run p limit' inbox).left.cycles = limit' + 1) := by
  intro s
  rcases run_stops_or_exceeds p limit inbox with ⟨is, hle, hstops⟩ | ⟨is, c, hlen, hs, hrun⟩
  · have hcycles : s.left.cycles = is.length := hstops.cycles
    have hresult : s.result ≠ .error (.cycleLimit limit) := hstops.result_ne limit
    refine ⟨by omega, ⟨fun h => by omega, fun h => absurd h hresult⟩, fun _ => ⟨?_, ?_⟩⟩
    · intro limit' hl
      exact hstops.run_eq (by omega)
    · intro limit' hl
      obtain ⟨c, hs, -⟩ := hstops.steps
      have hlt : limit' < is.length := by omega
      -- the run that stopped has done more than `limit'` allows, so its first part exceeds it
      obtain ⟨d, hd, hcut⟩ := hs.run_eq_exceeded hlt
      rw [hcut]
      refine ⟨rfl, ?_⟩
      show d.state.cycles = limit' + 1
      rw [hd.cycles_start, List.length_take]
      omega
  · have hs' : s = ⟨some (.cycleLimit limit), c⟩ := hrun
    have hcycles : s.left.cycles = limit + 1 := by
      rw [hs', ← hlen, ← hs.cycles_start]
      rfl
    have hresult : s.result = .error (.cycleLimit limit) := by rw [hs']; rfl
    exact ⟨by omega, ⟨fun _ => hresult, fun _ => hcycles⟩, fun h => absurd hresult h⟩

/-- **A limit of the program's size is enough.** Where a run exceeds such a limit, no run of the
program finishes, whatever its inbox and its limit are. -/
theorem never_finishes_of_exceeding_size (p : Program) (limit limit₀ : Nat) (inbox : List α)
    (hsize : p.size ≤ limit) (h : (run p limit inbox).result = .error (.cycleLimit limit₀)) :
    ∀ (β : Type) (other : List β) (limit' : Nat) (r : Result β),
      (run p limit' other).result ≠ .ok r := by
  intro β other limit' r hr
  obtain ⟨is, c, hlen, hs⟩ := exists_steps_of_exceeded h
  obtain ⟨js, d, hfin, -, -⟩ := run_result_eq_ok_iff.mp hr
  -- the walk does not look at the inbox, so it is the same for both runs
  have hgoes := hs.isSome_walk?_of_size_lt (by omega) (js.length + 1)
  rw [hfin.walk?_eq_none] at hgoes
  cases hgoes

/-- A loop that copies its inbox exceeds the limit after one turn, and ends nowhere. -/
theorem copying_loop_never_finishes :
    (run ⟨[.instruction .inbox, .instruction .outbox, .instruction (.jump "again")],
        [("again", 0)]⟩ 3 [7, 8]).result = .error (.cycleLimit 3) ∧
      ∀ (other : List Int) (limit : Nat) (r : Result Int),
        (run ⟨[.instruction .inbox, .instruction .outbox, .instruction (.jump "again")],
          [("again", 0)]⟩ limit other).result ≠ .ok r :=
  ⟨rfl, never_finishes_of_exceeding_size _ 3 3 [7, 8] (by decide) rfl Int⟩

end Mailroom.Machine
