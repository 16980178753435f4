import Mailroom.Proofs.Machine.Control
import Mathlib.Data.Set.Function

/-!
# Names of labels

A name stands in two places, in the table and in the jumps, and a run only ever asks the table for
what a jump has. So other names in both places make no difference, as long as names that are told
apart stay apart. The other names are then seen where the run shows a name: in its log, and in the
fault of a jump to a label that is not there.

It is not enough that the labels of the table stay apart. A jump to a name that is not declared must
not find one of the others, and `address?_rename` is where that is used.
-/

set_option autoImplicit false

namespace Mailroom

/-! ## Other names -/

def Instruction.rename (f : String → String) : Instruction → Instruction
  | .inbox => .inbox
  | .outbox => .outbox
  | .jump label => .jump (f label)

def Slot.rename (f : String → String) : Slot → Slot
  | .instruction i => .instruction (i.rename f)
  | .foreign content => .foreign content

namespace Program

variable {p : Program} {f : String → String}

def rename (f : String → String) (p : Program) : Program where
  slots := p.slots.map (Slot.rename f)
  labels := p.labels.map fun l => (f l.1, l.2)

/-- The name is that of a label, or a jump has it. -/
def Mentions (p : Program) (name : String) : Prop :=
  name ∈ p.labels.map Prod.fst ∨ .instruction (.jump name) ∈ p.slots

theorem slot?_rename (f : String → String) (p : Program) (pc : Int) :
    (p.rename f).slot? pc = (p.slot? pc).map (Slot.rename f) := by
  unfold slot? rename
  split
  · rfl
  · exact List.getElem?_map

theorem lookup_map_key {f : String → String} {labels : List (String × Int)} {name : String}
    (h : ∀ key ∈ labels.map Prod.fst, f name = f key → name = key) :
    (labels.map fun l => (f l.1, l.2)).lookup (f name) = labels.lookup name := by
  induction labels with
  | nil => rfl
  | cons l labels ih =>
    rw [List.map_cons, List.forall_mem_cons] at h
    obtain ⟨hl, hlabels⟩ := h
    rw [List.map_cons, List.lookup_cons, List.lookup_cons, ih hlabels]
    have hsame : (f name == f l.1) = (name == l.1) := by
      rw [Bool.eq_iff_iff, beq_iff_eq, beq_iff_eq]
      exact ⟨hl, congrArg f⟩
    rw [hsame]

theorem address?_rename (hf : Set.InjOn f {name | p.Mentions name}) {label : String}
    (hl : .instruction (.jump label) ∈ p.slots) :
    (p.rename f).address? (f label) = p.address? label := by
  apply lookup_map_key
  intro key hkey heq
  exact hf (Or.inr hl) (Or.inl hkey) heq

end Program

namespace Machine

variable {α : Type} {p : Program} {f : String → String}

def Event.rename (f : String → String) : Event α → Event α
  | .fetch pc slot => .fetch pc (slot.rename f)
  | .took v => .took v
  | .gave v => .gave v
  | .jumping label => .jumping (f label)

def Fault.rename (f : String → String) : Fault → Fault
  | .undefinedLabel label => .undefinedLabel (f label)
  | .endOfInput => .endOfInput
  | .emptyAccumulator => .emptyAccumulator
  | .cycleLimit limit => .cycleLimit limit
  | .notInstruction kind => .notInstruction kind

def Config.rename (f : String → String) (c : Config α) : Config α :=
  { c with log := c.log.map (Event.rename f) }

def Stopped.rename (f : String → String) (s : Stopped α) : Stopped α :=
  ⟨s.fault.map (Fault.rename f), s.final.rename f⟩

/-! ## Runs under other names -/

theorem Does.rename (hf : Set.InjOn f {name | p.Mentions name}) {c c' : Config α} {i : Instruction}
    (h : Does p c i c') : Does (p.rename f) (c.rename f) (i.rename f) (c'.rename f) := by
  have hslot : (p.rename f).slot? c.state.pc = some (.instruction (i.rename f)) := by
    rw [Program.slot?_rename, h.slot]
    rfl
  cases h with
  | inbox hs hi => exact .inbox hslot hi
  | outbox hs ha => exact .outbox hslot ha
  | jump hs hl =>
    refine .jump hslot ?_
    rw [Program.address?_rename hf (Program.mem_slots_of_slot? hs), hl]

theorem Fails.rename (hf : Set.InjOn f {name | p.Mentions name}) {c d : Config α} {e : Fault}
    (h : Fails p c e d) : Fails (p.rename f) (c.rename f) (e.rename f) (d.rename f) := by
  have hslot : ∀ {slot}, p.slot? c.state.pc = some slot →
      (p.rename f).slot? c.state.pc = some (slot.rename f) := by
    intro slot hs
    rw [Program.slot?_rename, hs]
    rfl
  cases h with
  | endOfInput hs hi => exact .endOfInput (hslot hs) hi
  | emptyAccumulator hs ha => exact .emptyAccumulator (hslot hs) ha
  | undefinedLabel hs hl =>
    refine .undefinedLabel (hslot hs) ?_
    rw [Program.address?_rename hf (Program.mem_slots_of_slot? hs), hl]
  | notInstruction hs => exact .notInstruction (hslot hs)

theorem Steps.rename (hf : Set.InjOn f {name | p.Mentions name}) {c c' : Config α}
    {is : List Instruction} (h : Steps p c is c') :
    Steps (p.rename f) (c.rename f) (is.map (Instruction.rename f)) (c'.rename f) := by
  induction h with
  | nil c => exact .nil _
  | cons hd _ ih => exact .cons (hd.rename hf) ih

theorem Ends.rename (hf : Set.InjOn f {name | p.Mentions name}) {limit budget : Nat} {c : Config α}
    {s : Stopped α} (h : Ends p limit budget c s) :
    Ends (p.rename f) limit budget (c.rename f) (s.rename f) := by
  cases h with
  | finished hs hh hb =>
    refine .finished (hs.rename hf) ?_ (by simpa using hb)
    show (p.rename f).slot? _ = none
    rw [Program.slot?_rename]
    exact congrArg _ hh
  | failed hs hfail hb => exact .failed (hs.rename hf) (hfail.rename hf) (by simpa using hb)
  | exceeded hs hb => exact .exceeded (hs.rename hf) (by simpa using hb)

theorem run_rename (hf : Set.InjOn f {name | p.Mentions name}) (limit : Nat) (inbox : List α) :
    run (p.rename f) limit inbox = (run p limit inbox).rename f :=
  Ends.runFrom_eq ((ends_runFrom p limit limit (.start inbox)).rename hf)

namespace Stopped

theorem result_rename (f : String → String) (s : Stopped α) :
    (s.rename f).result = s.result.mapError (Fault.rename f) := by
  unfold result rename
  cases s.fault <;> rfl

theorem left_rename (f : String → String) (s : Stopped α) : (s.rename f).left = s.left := by
  unfold left rename
  cases s.fault <;> rfl

theorem events_rename (f : String → String) (s : Stopped α) :
    (s.rename f).events = s.events.map (Event.rename f) := List.map_reverse.symm

end Stopped

/-- **Names of labels are only names.** Where the names of a program are replaced by others, in its
table and in its jumps, and those that the program tells apart stay apart, every run comes to the
same end and leaves the same state and the same values untaken. Only a name that the run shows is
the other one: that of a label that is not there, and those in the log. -/
theorem run_only_shows_names (p : Program) (f : String → String)
    (hf : Set.InjOn f {name | p.Mentions name}) (limit : Nat) (inbox : List α) :
    let s := run p limit inbox
    let t := run (p.rename f) limit inbox
    t.result = s.result.mapError (Fault.rename f) ∧ t.left = s.left ∧ t.rest = s.rest ∧
      t.events = s.events.map (Event.rename f) := by
  intro s t
  have ht : t = s.rename f := run_rename hf limit inbox
  rw [ht]
  exact ⟨s.result_rename f, s.left_rename f, rfl, s.events_rename f⟩

/-- Three names change places, and all others become one of them. The jump to the label that is not
there is now to a name that was declared before. -/
theorem run_only_shows_names_that_change_places :
    let p : Program := ⟨[.instruction .inbox, .instruction (.jump "go"), .instruction .outbox,
      .instruction (.jump "nowhere")], [("go", 2), ("end", 4)]⟩
    let f : String → String := fun name =>
      if name = "go" then "end" else if name = "end" then "nowhere" else "go"
    Set.InjOn f {name | p.Mentions name} ∧
      (run p 9 [7]).result = .error (.undefinedLabel "nowhere") ∧
      (run (p.rename f) 9 [7]).result = .error (.undefinedLabel "go") ∧
      (run (p.rename f) 9 [7]).left = ⟨3, none, 3, [7]⟩ := by
  intro p f
  have hnames : ∀ name, p.Mentions name → name = "go" ∨ name = "end" ∨ name = "nowhere" := by
    intro name h
    have hcases : (name = "go" ∨ name = "end") ∨ name = "go" ∨ name = "nowhere" := by
      simpa [Program.Mentions, p] using h
    tauto
  have hf : Set.InjOn f {name | p.Mentions name} := by
    intro m hm n hn heq
    rcases hnames m hm with rfl | rfl | rfl <;> rcases hnames n hn with rfl | rfl | rfl <;>
      simp [f] at heq ⊢
  obtain ⟨hresult, hleft, -, -⟩ := run_only_shows_names p f hf 9 [7]
  exact ⟨hf, rfl, hresult, hleft⟩

end Machine

end Mailroom
