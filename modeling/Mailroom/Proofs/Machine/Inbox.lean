import Mailroom.Proofs.Machine.History
import Mailroom.Proofs.Machine.Values

/-!
# Runs on other inboxes

Two runs of one program are compared, on an inbox and on one that is made from it.

Where each value is replaced by its image under a function, the two runs go the same way and end
the same way, and all that differs is the values (`run_ignores_values`). The function can send two
values to one, so no run can tell values apart.

Where more values follow, the two runs go the same way until the first one wants a value that it
does not have. A run that never does is the same run on the longer inbox (`run_append_of_fed`). For
one that does, the longer run comes to the same configuration with values still to take, and goes on
from there (`starved_onward`).
-/

set_option autoImplicit false

namespace Mailroom.Machine

variable {α β : Type} {p : Program}

/-! ## Other values -/

theorem takenIn_map (f : α → β) (events : List (Event α)) :
    takenIn (events.map (Event.map f)) = (takenIn events).map f := by
  have htaken : Event.taken? ∘ Event.map f = fun e => e.taken?.map f := by
    funext e
    cases e <;> rfl
  rw [takenIn, takenIn, List.filterMap_map, htaken, List.map_filterMap]

theorem Stopped.events_map (f : α → β) (s : Stopped α) :
    (s.map f).events = s.events.map (Event.map f) :=
  List.map_reverse.symm

theorem Stopped.result_map (f : α → β) (s : Stopped α) :
    (s.map f).result = s.result.map fun r => ⟨r.cycles, r.output.map f⟩ := by
  unfold Stopped.map Stopped.result
  cases s.fault <;> rfl

theorem Stopped.left_map (f : α → β) (s : Stopped α) :
    (s.map f).left =
      { pc := s.left.pc, acc := s.left.acc.map f, cycles := s.left.cycles,
        output := s.left.output.map f } := by
  unfold Stopped.map Stopped.left
  cases s.fault <;> rfl

/-- **A run never looks at the values.** On the images of the values it ends the same way, with the
same result but for the values in it or with the same fault. The machine is left with the images of
what it would hold, and the images of the same values have been taken. -/
theorem run_ignores_values (f : α → β) (p : Program) (limit : Nat) (inbox : List α) :
    let s := run p limit inbox
    let t := run p limit (inbox.map f)
    (t.result = s.result.map fun r => ⟨r.cycles, r.output.map f⟩) ∧
    t.left =
      { pc := s.left.pc, acc := s.left.acc.map f, cycles := s.left.cycles,
        output := s.left.output.map f } ∧
    takenIn t.events = (takenIn s.events).map f ∧ t.rest = s.rest.map f := by
  intro s t
  have ht : t = s.map f := run_map f p limit inbox
  rw [ht]
  refine ⟨s.result_map f, s.left_map f, ?_, rfl⟩
  rw [s.events_map, takenIn_map]

/-! ## More values -/

def Config.withMore (c : Config α) (more : List α) : Config α :=
  { c with inbox := c.inbox ++ more }

def Stopped.withMore (s : Stopped α) (more : List α) : Stopped α :=
  ⟨s.fault, s.final.withMore more⟩

theorem Steps.withMore {c c' : Config α} {is : List Instruction} (h : Steps p c is c')
    (more : List α) : Steps p (c.withMore more) is (c'.withMore more) := by
  obtain ⟨taken, -, hin, hs⟩ := h.frame
  have hmore := hs (c'.inbox ++ more)
  rw [← List.append_assoc, ← hin] at hmore
  exact hmore

theorem Fails.withMore {c d : Config α} {f : Fault} (h : Fails p c f d) (hf : f ≠ .endOfInput)
    (more : List α) : Fails p (c.withMore more) f (d.withMore more) := by
  cases h with
  | endOfInput hs hi => exact absurd rfl hf
  | emptyAccumulator hs ha => exact .emptyAccumulator hs ha
  | undefinedLabel hs hl => exact .undefinedLabel hs hl
  | notInstruction hs => exact .notInstruction hs

theorem Ends.withMore {limit budget : Nat} {c : Config α} {s : Stopped α}
    (h : Ends p limit budget c s) (hf : s.fault ≠ some .endOfInput) (more : List α) :
    Ends p limit budget (c.withMore more) (s.withMore more) := by
  cases h with
  | finished hs hh hb => exact .finished (hs.withMore more) hh hb
  | failed hs hfails hb =>
    exact .failed (hs.withMore more) (hfails.withMore (fun heq => hf (congrArg some heq)) more) hb
  | exceeded hs hb => exact .exceeded (hs.withMore more) hb

/-- A run that had the values it wanted is the same run on a longer inbox. -/
theorem run_append_of_fed {limit : Nat} {xs : List α}
    (h : (run p limit xs).fault ≠ some .endOfInput) (ys : List α) :
    run p limit (xs ++ ys) = (run p limit xs).withMore ys :=
  Ends.runFrom_eq ((ends_runFrom p limit limit (.start xs)).withMore h ys)

/-- Where a run stops for want of a value, the run on a longer inbox comes by with the values that
it has more, and goes on. -/
theorem starved_onward {limit : Nat} {xs : List α}
    (h : (run p limit xs).fault = some .endOfInput) (ys : List α) :
    ∃ c, Accounted xs c ∧ c.inbox = [] ∧ (run p limit xs).final.state = c.state ∧
      (run p limit xs).rest = [] ∧ (c.withMore ys).Onward (run p limit (xs ++ ys)).final := by
  have hends : Ends p limit limit (.start xs) (run p limit xs) := ends_runFrom p limit limit _
  generalize run p limit xs = s at h hends ⊢
  cases hends with
  | finished hs hh hb => cases h
  | exceeded hs hb => cases h
  | @failed is c d f hs hf hb =>
    cases h
    have hempty : c.inbox = [] := by
      cases hf
      assumption
    refine ⟨c, hs.accounted, hempty, hf.state, hf.inbox.trans hempty, ?_⟩
    -- the instructions that both runs do are used up from the limit of the longer one
    obtain ⟨budget, hlimit⟩ := Nat.exists_eq_add_of_le hb
    have hgoes : run p limit (xs ++ ys) = runFrom p limit budget (c.withMore ys) := by
      rw [← (hs.withMore ys).runFrom_add, ← hlimit]
      rfl
    rw [hgoes]
    exact runFrom_onward p limit budget _

theorem Stopped.left_of_fault {s : Stopped α} {f : Fault} (h : s.fault = some f) :
    s.left = s.final.state := by
  rw [Stopped.left, h]

theorem Stopped.left_withMore (s : Stopped α) (more : List α) :
    (s.withMore more).left = s.left := by
  unfold Stopped.withMore Stopped.left
  cases s.fault <;> rfl

/-- **More input changes nothing that was done.** A run that does not come to the end of its inbox
has the same result or fault on a longer one, leaves the machine alike and takes the same values. A
run that does has taken all of its inbox; the longer run takes all of it too, does no fewer
instructions, and puts out all that the shorter one has put out before anything else. -/
theorem run_append_inbox (p : Program) (limit : Nat) (xs ys : List α) :
    let s := run p limit xs
    let t := run p limit (xs ++ ys)
    (s.result ≠ .error .endOfInput →
      t.result = s.result ∧ t.left = s.left ∧ takenIn t.events = takenIn s.events ∧
        t.rest = s.rest ++ ys) ∧
    (s.result = .error .endOfInput →
      (takenIn s.events = xs ∧ s.rest = []) ∧ (xs <+: takenIn t.events ∧ t.rest <:+ ys) ∧
        s.left.cycles ≤ t.left.cycles ∧ s.left.output <+: t.outbox) := by
  intro s t
  rw [Ne, Stopped.result_eq_error_iff]
  constructor
  · intro hfed
    -- the two runs are step by step the same, with `ys` left over at the end of the longer
    have ht : t = s.withMore ys := run_append_of_fed hfed ys
    rw [ht]
    exact ⟨rfl, s.left_withMore ys, rfl, rfl⟩
  · intro hstarved
    obtain ⟨c, haccounted, hempty, hstate, hrest, honward⟩ := starved_onward hstarved ys
    have htaken : takenIn s.events = xs := by
      have hall : takenIn s.events ++ s.rest = xs := takenIn_append_rest p limit xs
      rwa [hrest, List.append_nil] at hall
    -- `c` is where the shorter run stops and the longer one goes on
    have hcommon : takenIn c.log.reverse = xs := by
      rwa [Accounted, hempty, List.append_nil] at haccounted
    have hmore : (c.withMore ys).inbox = ys := by rw [Config.withMore, hempty, List.nil_append]
    refine ⟨⟨htaken, hrest⟩, ⟨hcommon ▸ honward.taken, hmore ▸ honward.inbox⟩, ?_, ?_⟩
    · rw [s.left_cycles, t.left_cycles, hstate]
      exact honward.cycles
    · rw [Stopped.left_of_fault hstarved, t.outbox_eq, hstate]
      exact honward.output

/-- A loop that copies its inbox wants a second value and has none. On a longer inbox it takes that
value, and this is one instruction more than it is allowed. -/
theorem run_append_inbox_to_copying_loop :
    let p : Program := ⟨[.instruction .inbox, .instruction .outbox, .instruction (.jump "again")],
      [("again", 0)]⟩
    (run p 3 [7]).result = .error .endOfInput ∧
      (run p 3 ([7] ++ [8, 9])).result = .error (.cycleLimit 3) ∧
      [7] <+: takenIn (run p 3 ([7] ++ [8, 9])).events ∧
      (run p 3 [7]).left.output <+: (run p 3 ([7] ++ [8, 9])).outbox := by
  intro p
  obtain ⟨-, ⟨htaken, -⟩, -, hout⟩ := (run_append_inbox p 3 [7] [8, 9]).2 rfl
  exact ⟨rfl, rfl, htaken, hout⟩

end Mailroom.Machine
