import Mailroom.Proofs.Machine.Limit

/-!
# What a run has done stays done

A run counts up, puts values out behind those it has put out, writes its log on and takes from the
front of its inbox. It never goes back on any of it, and `Config.Onward` is that order on
configurations. One instruction goes onward, also one that fails, and so does a whole run
(`runFrom_onward`).

So the log is the history of a run, and what the run has done is read off it: the values it has
taken, the addresses it has looked up and the labels it has jumped to. What is said to be taken and
what is left are the inbox (`takenIn_append_rest`), and what is said of the program is so
(`trueOf_of_mem_events`).
-/

set_option autoImplicit false

namespace Mailroom.Machine

variable {α : Type} {p : Program}

/-! ## Going on -/

/-- The second configuration has all that the first has done, and maybe more. -/
structure Config.Onward (c c' : Config α) : Prop where
  cycles : c.state.cycles ≤ c'.state.cycles
  output : c.state.output <+: c'.state.output
  inbox : c'.inbox <:+ c.inbox
  log : c.log <:+ c'.log

theorem Config.Onward.refl (c : Config α) : c.Onward c :=
  ⟨Nat.le_refl _, List.prefix_rfl, List.suffix_rfl, List.suffix_rfl⟩

theorem Config.Onward.trans {c c' c'' : Config α} (h₁ : c.Onward c') (h₂ : c'.Onward c'') :
    c.Onward c'' where
  cycles := Nat.le_trans h₁.cycles h₂.cycles
  output := h₁.output.trans h₂.output
  inbox := h₂.inbox.trans h₁.inbox
  log := h₁.log.trans h₂.log

theorem Does.onward {c c' : Config α} {i : Instruction} (h : Does p c i c') : c.Onward c' := by
  have hcycles : c.state.cycles ≤ c'.state.cycles := by
    rw [h.cycles]
    exact Nat.le_succ _
  cases h with
  | @inbox v rest hs hi =>
    exact ⟨hcycles, List.prefix_rfl, hi ▸ List.suffix_cons v rest, List.suffix_append [_, _] c.log⟩
  | @outbox v hs ha =>
    exact ⟨hcycles, List.prefix_append _ [v], List.suffix_rfl, List.suffix_append [_, _] c.log⟩
  | jump hs hl =>
    exact ⟨hcycles, List.prefix_rfl, List.suffix_rfl, List.suffix_append [_, _] c.log⟩

theorem Fails.onward {c d : Config α} {f : Fault} (h : Fails p c f d) : c.Onward d := by
  have hlog : c.log <:+ d.log := by
    cases h with
    | undefinedLabel hs hl => exact List.suffix_append [_, _] c.log
    | endOfInput | emptyAccumulator | notInstruction => exact List.suffix_cons _ c.log
  exact ⟨by rw [h.state], by rw [h.state], by rw [h.inbox], hlog⟩

theorem Steps.onward {c c' : Config α} {is : List Instruction} (h : Steps p c is c') :
    c.Onward c' := by
  induction h with
  | nil c => exact .refl c
  | cons hd _ ih => exact hd.onward.trans ih

theorem runFrom_onward (p : Program) (limit budget : Nat) (c : Config α) :
    c.Onward (runFrom p limit budget c).final :=
  runFrom_invariant (fun hd h => h.trans hd.onward) (fun hf h => h.trans hf.onward) (.refl c)

/-! ## Reading the log -/

def Event.taken? : Event α → Option α
  | .took v => some v
  | _ => none

def Event.fetched? : Event α → Option Int
  | .fetch pc _ => some pc
  | _ => none

def Event.jumpedTo? : Event α → Option String
  | .jumping label => some label
  | _ => none

def takenIn (events : List (Event α)) : List α := events.filterMap Event.taken?

def fetchedIn (events : List (Event α)) : List Int := events.filterMap Event.fetched?

/-- The labels that were jumped to, by the log. A label that is not declared is among them when a
jump to it was tried. -/
def jumpedIn (events : List (Event α)) : List String := events.filterMap Event.jumpedTo?

theorem Config.Onward.taken {c c' : Config α} (h : c.Onward c') :
    takenIn c.log.reverse <+: takenIn c'.log.reverse :=
  (List.reverse_prefix.mpr h.log).filterMap Event.taken?

/-- The log of a run that is on its way accounts for what is missing from its inbox. -/
def Accounted (inbox : List α) (c : Config α) : Prop := takenIn c.log.reverse ++ c.inbox = inbox

theorem Does.accounted {inbox : List α} {c c' : Config α} {i : Instruction} (hd : Does p c i c')
    (h : Accounted inbox c) : Accounted inbox c' := by
  unfold Accounted takenIn at h ⊢
  cases hd with
  | inbox hs hi =>
    rw [hi] at h
    simpa [List.filterMap_cons, Event.taken?] using h
  | outbox hs ha => simpa [List.filterMap_cons, Event.taken?] using h
  | jump hs hl => simpa [List.filterMap_cons, Event.taken?] using h

theorem Fails.accounted {inbox : List α} {c d : Config α} {f : Fault} (hf : Fails p c f d)
    (h : Accounted inbox c) : Accounted inbox d := by
  unfold Accounted takenIn at h ⊢
  cases hf <;> simpa [Config.note, List.filterMap_cons, Event.taken?] using h

theorem Steps.accounted {inbox : List α} {c : Config α} {is : List Instruction}
    (hs : Steps p (.start inbox) is c) : Accounted inbox c := by
  have hstart : Accounted inbox (.start inbox) := rfl
  exact hs.invariant (motive := fun _ c => Accounted inbox c) hstart fun h hd => hd.accounted h

/-- What a run has taken and what it has not are the inbox, also when the run failed. -/
theorem takenIn_append_rest (p : Program) (limit : Nat) (inbox : List α) :
    takenIn (run p limit inbox).events ++ (run p limit inbox).rest = inbox := by
  have hstart : Accounted inbox (.start inbox) := rfl
  exact runFrom_invariant (motive := Accounted inbox) Does.accounted Fails.accounted hstart

/-! ## What the log says of the program -/

/-- What an event says of the program is so. -/
def Event.TrueOf (p : Program) : Event α → Prop
  | .fetch pc slot => p.slot? pc = some slot
  | .jumping label => .instruction (.jump label) ∈ p.slots
  | .took _ => True
  | .gave _ => True

theorem Does.log_trueOf {c c' : Config α} {i : Instruction} (hd : Does p c i c')
    (h : ∀ e ∈ c.log, e.TrueOf p) : ∀ e ∈ c'.log, e.TrueOf p := by
  cases hd with
  | inbox hs hi => exact List.forall_mem_cons.mpr ⟨trivial, List.forall_mem_cons.mpr ⟨hs, h⟩⟩
  | outbox hs ha => exact List.forall_mem_cons.mpr ⟨trivial, List.forall_mem_cons.mpr ⟨hs, h⟩⟩
  | jump hs hl =>
    exact List.forall_mem_cons.mpr
      ⟨Program.mem_slots_of_slot? hs, List.forall_mem_cons.mpr ⟨hs, h⟩⟩

theorem Fails.log_trueOf {c d : Config α} {f : Fault} (hf : Fails p c f d)
    (h : ∀ e ∈ c.log, e.TrueOf p) : ∀ e ∈ d.log, e.TrueOf p := by
  cases hf with
  | undefinedLabel hs hl =>
    exact List.forall_mem_cons.mpr
      ⟨Program.mem_slots_of_slot? hs, List.forall_mem_cons.mpr ⟨hs, h⟩⟩
  | endOfInput hs hi => exact List.forall_mem_cons.mpr ⟨hs, h⟩
  | emptyAccumulator hs ha => exact List.forall_mem_cons.mpr ⟨hs, h⟩
  | notInstruction hs => exact List.forall_mem_cons.mpr ⟨hs, h⟩

theorem trueOf_of_mem_events {limit : Nat} {inbox : List α} {e : Event α}
    (he : e ∈ (run p limit inbox).events) : e.TrueOf p := by
  have hstart : ∀ e ∈ (Config.start inbox).log, e.TrueOf p := List.forall_mem_nil _
  have hlog : ∀ e ∈ (run p limit inbox).final.log, e.TrueOf p :=
    runFrom_invariant (motive := fun c => ∀ e ∈ c.log, e.TrueOf p) Does.log_trueOf
      Fails.log_trueOf hstart
  exact hlog e (List.mem_reverse.mp he)

end Mailroom.Machine
