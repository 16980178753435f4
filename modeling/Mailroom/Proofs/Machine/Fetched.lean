import Mailroom.Proofs.Machine.History

/-!
# Only what is fetched matters

A run reads its program in two ways: it looks up the slot at the program counter, and it looks up
the label of a jump that it does. Both are in its log. So a program that holds the same slots at the
addresses in the log, and answers the same for the labels in it, cannot be told from the first by
this run (`run_eq_of_agreesOn`), whatever it holds elsewhere.

The log is known only when the run is over. At every moment before, it is a part of that log,
because the log only grows, and agreeing on the whole is agreeing on the part.
-/

set_option autoImplicit false

namespace Mailroom

theorem Program.slot?_set_of_ne {p : Program} {n : Nat} {a : Int} (slot : Slot) (h : a ≠ n) :
    Program.slot? { p with slots := p.slots.set n slot } a = p.slot? a := by
  unfold Program.slot?
  split
  · rfl
  · rw [List.getElem?_set_ne]
    omega

namespace Machine

variable {α : Type} {p q : Program}

/-- The second program holds what the first holds at the addresses that were looked up, and knows
the labels that were jumped to as the first does. -/
structure AgreesOn (p q : Program) (events : List (Event α)) : Prop where
  slots : ∀ a ∈ fetchedIn events, q.slot? a = p.slot? a
  labels : ∀ label ∈ jumpedIn events, q.address? label = p.address? label

theorem AgreesOn.mono {events earlier : List (Event α)} (h : AgreesOn p q events)
    (hsub : earlier ⊆ events) : AgreesOn p q earlier where
  slots a ha := h.slots a (List.filterMap_subset Event.fetched? hsub ha)
  labels label hl := h.labels label (List.filterMap_subset Event.jumpedTo? hsub hl)

theorem AgreesOn.slot {events : List (Event α)} {a : Int} {slot : Slot}
    (h : AgreesOn p q events) (hmem : .fetch a slot ∈ events) (hs : p.slot? a = some slot) :
    q.slot? a = some slot :=
  (h.slots a (List.mem_filterMap.mpr ⟨_, hmem, rfl⟩)).trans hs

theorem AgreesOn.address {events : List (Event α)} {label : String} {address : Option Int}
    (h : AgreesOn p q events) (hmem : .jumping label ∈ events)
    (hl : p.address? label = address) : q.address? label = address :=
  (h.labels label (List.mem_filterMap.mpr ⟨_, hmem, rfl⟩)).trans hl

/-! ## One instruction

An instruction writes into the log what it reads of the program, so it is enough to agree on the
log after it. -/

theorem Does.of_agreesOn {c c' : Config α} {i : Instruction} (hd : Does p c i c')
    (h : AgreesOn p q c'.log) : Does q c i c' := by
  cases hd with
  | inbox hs hi => exact .inbox (h.slot (by simp) hs) hi
  | outbox hs ha => exact .outbox (h.slot (by simp) hs) ha
  | jump hs hl => exact .jump (h.slot (by simp) hs) (h.address (by simp) hl)

theorem Fails.of_agreesOn {c d : Config α} {f : Fault} (hf : Fails p c f d)
    (h : AgreesOn p q d.log) : Fails q c f d := by
  cases hf with
  | endOfInput hs hi => exact .endOfInput (h.slot (by simp [Config.note]) hs) hi
  | emptyAccumulator hs ha => exact .emptyAccumulator (h.slot (by simp [Config.note]) hs) ha
  | undefinedLabel hs hl =>
    exact .undefinedLabel (h.slot (by simp [Config.note]) hs) (h.address (by simp [Config.note]) hl)
  | notInstruction hs => exact .notInstruction (h.slot (by simp [Config.note]) hs)

/-! ## Runs -/

theorem Steps.of_agreesOn {c c' : Config α} {is : List Instruction} (hs : Steps p c is c')
    (h : AgreesOn p q c'.log) : Steps q c is c' := by
  induction hs with
  | nil c => exact .nil c
  | cons hd hr ih => exact .cons (hd.of_agreesOn (h.mono hr.onward.log.subset)) (ih h)

theorem Ends.of_agreesOn {limit budget : Nat} {c : Config α} {s : Stopped α}
    (he : Ends p limit budget c s) (hsize : q.size = p.size) (h : AgreesOn p q s.final.log) :
    Ends q limit budget c s := by
  cases he with
  | finished hs hh hb =>
    -- nothing is fetched outside of the program, and there the sizes decide
    rw [Program.slot?_eq_none_iff, ← hsize, ← Program.slot?_eq_none_iff] at hh
    exact .finished (hs.of_agreesOn h) hh hb
  | failed hs hf hb =>
    exact .failed (hs.of_agreesOn (h.mono hf.onward.log.subset)) (hf.of_agreesOn h) hb
  | exceeded hs hb => exact .exceeded (hs.of_agreesOn h) hb

theorem run_eq_of_agreesOn {limit : Nat} {inbox : List α} (hsize : q.size = p.size)
    (h : AgreesOn p q (run p limit inbox).events) : run q limit inbox = run p limit inbox := by
  have hlog : AgreesOn p q (run p limit inbox).final.log :=
    h.mono (List.subset_reverse.mpr (List.Subset.refl _))
  exact Ends.runFrom_eq ((ends_runFrom p limit limit (.start inbox)).of_agreesOn hsize hlog)

/-- **Only code that is executed matters.** A program of the same size that holds the same at every
address that a run fetches, and answers the same for every label that it jumps to, runs to the same
end. So a slot that is never fetched can hold anything: a jump to a label that is not declared, or
what is no instruction. -/
theorem run_depends_on_fetched_code (p : Program) (limit : Nat) (inbox : List α) :
    let s := run p limit inbox
    (∀ q : Program, q.size = p.size →
      (∀ a ∈ fetchedIn s.events, q.slot? a = p.slot? a) →
      (∀ label ∈ jumpedIn s.events, q.address? label = p.address? label) →
      run q limit inbox = s) ∧
    ∀ (n : Nat) (slot : Slot), (n : Int) ∉ fetchedIn s.events →
      run { p with slots := p.slots.set n slot } limit inbox = s := by
  intro s
  refine ⟨fun q hsize hslots hlabels => run_eq_of_agreesOn hsize ⟨hslots, hlabels⟩, ?_⟩
  intro n slot hn
  refine run_eq_of_agreesOn List.length_set ⟨fun a ha => ?_, fun label _ => rfl⟩
  exact Program.slot?_set_of_ne slot (ne_of_mem_of_not_mem ha hn)

/-- A run that jumps over a slot with no instruction in it. The other program has a jump to nowhere
there, and a label that the run does not jump to leads elsewhere. -/
theorem run_depends_on_fetched_code_around_slot :
    (run ⟨[.instruction .inbox, .instruction (.jump "send"), .foreign (.int 5),
        .instruction .outbox], [("send", 3), ("back", 0)]⟩ 9 [7]).result = .ok ⟨3, [7]⟩ ∧
      (run ⟨[.instruction .inbox, .instruction (.jump "send"), .instruction (.jump "lost"),
        .instruction .outbox], [("back", -4), ("send", 3)]⟩ 9 [7]).result = .ok ⟨3, [7]⟩ := by
  have hrun := (run_depends_on_fetched_code
    ⟨[.instruction .inbox, .instruction (.jump "send"), .foreign (.int 5), .instruction .outbox],
      [("send", 3), ("back", 0)]⟩ 9 [7]).1
    ⟨[.instruction .inbox, .instruction (.jump "send"), .instruction (.jump "lost"),
      .instruction .outbox], [("back", -4), ("send", 3)]⟩ rfl
  refine ⟨rfl, ?_⟩
  rw [hrun]
  · rfl
  · show ∀ a ∈ [0, 1, 3], _
    simp only [List.forall_mem_cons]
    exact ⟨rfl, rfl, rfl, nofun⟩
  · show ∀ label ∈ ["send"], _
    exact List.forall_mem_singleton.mpr rfl

end Machine

end Mailroom
