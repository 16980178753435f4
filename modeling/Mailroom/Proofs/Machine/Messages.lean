import Mailroom.Cell
import Mailroom.Proofs.Machine.History
import Mailroom.Proofs.Text.Decimal
import Mathlib.Data.List.Chain

/-!
# The log of a run in words

The log is written for a reader, who sees lines of text. Each kind of message has a word of its own
in front, so the lines can be told apart again (`forall₂_startingWith`), and what they say is what
the run did.

An instruction is announced before it is done. So where the run was stopped by an instruction that
failed there is one announcement more than there are cycles, and the address in it is where the
machine was left. The addresses are chained by `Program.follow?` all the same: `OnTheWay` has the
address that comes next at the end of the chain, and an instruction that fails only brings that one
into the log.
-/

set_option autoImplicit false

namespace Mailroom.Machine

variable {α : Type} {p : Program}

/-! ## The addresses in the log -/

theorem Does.fetchedIn_log {c c' : Config α} {i : Instruction} (h : Does p c i c') :
    fetchedIn c'.log.reverse = fetchedIn c.log.reverse ++ [c.state.pc] := by
  cases h <;> simp [fetchedIn, Event.fetched?]

theorem Fails.fetchedIn_log {c d : Config α} {f : Fault} (h : Fails p c f d) :
    fetchedIn d.log.reverse = fetchedIn c.log.reverse ++ [c.state.pc] := by
  cases h <;> simp [fetchedIn, Config.note, Event.fetched?]

/-- The log has one address for each cycle. With the next one behind them, they lead from zero on,
each to the one after it. -/
structure OnTheWay (p : Program) (c : Config α) : Prop where
  count : (fetchedIn c.log.reverse).length = c.state.cycles
  first : (fetchedIn c.log.reverse ++ [c.state.pc]).head? = some 0
  chain : (fetchedIn c.log.reverse ++ [c.state.pc]).IsChain fun a b => p.follow? a = some b

theorem onTheWay_start (inbox : List α) : OnTheWay p (.start inbox) :=
  ⟨rfl, rfl, .singleton _⟩

theorem Does.onTheWay {c c' : Config α} {i : Instruction} (hd : Does p c i c')
    (h : OnTheWay p c) : OnTheWay p c' := by
  constructor
  · rw [hd.fetchedIn_log, List.length_append, h.count, hd.cycles]
    rfl
  · rw [hd.fetchedIn_log, List.head?_append, h.first]
    rfl
  · rw [hd.fetchedIn_log, List.append_assoc]
    exact List.isChain_append_cons_cons.mpr ⟨h.chain, hd.follow?_eq, .singleton _⟩

theorem Steps.onTheWay {inbox : List α} {c : Config α} {is : List Instruction}
    (hs : Steps p (.start inbox) is c) : OnTheWay p c :=
  hs.invariant (motive := fun _ c => OnTheWay p c) (onTheWay_start inbox) fun h hd => hd.onTheWay h

theorem run_fetched (p : Program) (limit : Nat) (inbox : List α) :
    let s := run p limit inbox
    ∃ c, OnTheWay p c ∧ s.final.state = c.state ∧
      ((s.fault = none ∨ s.fault = some (.cycleLimit limit)) ∧
          fetchedIn s.events = fetchedIn c.log.reverse ∨
        (∃ f, s.fault = some f ∧ f ≠ .cycleLimit limit) ∧
          fetchedIn s.events = fetchedIn c.log.reverse ++ [c.state.pc]) := by
  intro s
  have hends : Ends p limit limit (.start inbox) s := ends_runFrom p limit limit _
  generalize s = t at hends ⊢
  cases hends with
  | @finished is c hs hh hb => exact ⟨c, hs.onTheWay, rfl, Or.inl ⟨Or.inl rfl, rfl⟩⟩
  | @failed is c d f hs hf hb =>
    exact ⟨c, hs.onTheWay, hf.state, Or.inr ⟨⟨f, rfl, hf.ne_cycleLimit limit⟩, hf.fetchedIn_log⟩⟩
  | @exceeded is c hs hb => exact ⟨c, hs.onTheWay, rfl, Or.inl ⟨Or.inr rfl, rfl⟩⟩

theorem length_fetchedIn_events (p : Program) (limit : Nat) (inbox : List α) :
    let s := run p limit inbox
    (∀ r, s.result = .ok r → (fetchedIn s.events).length = r.cycles) ∧
      ∀ f, s.result = .error f → (fetchedIn s.events).length =
        if f = .cycleLimit limit then s.left.cycles else s.left.cycles + 1 := by
  intro s
  obtain ⟨c, hway, hstate, ⟨hnone | hlimit, hfetched⟩ | ⟨⟨f, hf, hne⟩, hfetched⟩⟩ :=
    run_fetched p limit inbox
  · -- finished: as many instructions were looked up as were done
    have hresult : s.result = .ok ⟨s.final.state.cycles, s.final.state.output⟩ := by
      rw [Stopped.result, hnone]
    rw [hresult, hfetched, hway.count, ← hstate]
    refine ⟨fun r hr => ?_, by simp⟩
    cases hr
    rfl
  · -- cut off: the last instruction was done before the cycles were counted
    have hresult := Stopped.result_eq_error_iff.mpr hlimit
    rw [hresult, hfetched, hway.count, s.left_cycles, hstate]
    refine ⟨by simp, fun f hf => ?_⟩
    cases hf
    rw [if_pos rfl]
  · -- failed: the instruction that failed was looked up and not counted
    have hresult := Stopped.result_eq_error_iff.mpr hf
    rw [hresult, hfetched, List.length_append, hway.count, s.left_cycles, hstate]
    refine ⟨by simp, fun f hf => ?_⟩
    cases hf
    rw [if_neg hne]
    rfl

theorem fetchedIn_events_chain (p : Program) (limit : Nat) (inbox : List α) :
    let addresses := fetchedIn (run p limit inbox).events
    (∀ a, addresses.head? = some a → a = 0) ∧
      addresses.IsChain fun a b => p.follow? a = some b := by
  intro addresses
  obtain ⟨c, hway, -, ⟨-, hfetched⟩ | ⟨-, hfetched⟩⟩ := run_fetched p limit inbox
  · have hchain := hway.chain
    have hfirst := hway.first
    rw [← hfetched] at hchain hfirst
    refine ⟨fun a ha => ?_, hchain.left_of_append⟩
    rw [List.head?_append, ha] at hfirst
    exact Option.some.inj hfirst
  · have hfirst := hway.first
    rw [← hfetched] at hfirst
    refine ⟨fun a ha => ?_, ?_⟩
    · exact Option.some.inj (ha.symm.trans hfirst)
    · rw [show addresses = _ from hfetched]
      exact hway.chain

/-! ## The values in the log -/

def Event.given? : Event α → Option α
  | .gave v => some v
  | _ => none

def givenIn (events : List (Event α)) : List α := events.filterMap Event.given?

theorem Does.givenIn_log {c c' : Config α} {i : Instruction} (hd : Does p c i c')
    (h : givenIn c.log.reverse = c.state.output) : givenIn c'.log.reverse = c'.state.output := by
  unfold givenIn at h ⊢
  cases hd <;> simp [List.filterMap_cons, Event.given?, h]

theorem Fails.givenIn_log {c d : Config α} {f : Fault} (hf : Fails p c f d)
    (h : givenIn c.log.reverse = c.state.output) : givenIn d.log.reverse = d.state.output := by
  unfold givenIn at h ⊢
  rw [hf.state, ← h]
  cases hf <;> simp [Config.note, List.filterMap_cons, Event.given?]

theorem givenIn_events (p : Program) (limit : Nat) (inbox : List α) :
    givenIn (run p limit inbox).events = (run p limit inbox).outbox := by
  rw [Stopped.outbox_eq]
  exact runFrom_invariant (motive := fun c => givenIn c.log.reverse = c.state.output)
    Does.givenIn_log Fails.givenIn_log rfl

/-! ## Telling messages apart -/

def startingWith (start : String) (messages : List String) : List String :=
  messages.filter fun m => start.toList.isPrefixOf m.toList

/-- The messages with a text in front are those of the events that `read` picks, if these and no
others are shown with it. -/
theorem forall₂_startingWith {β : Type} {start : String} {shown : Event α → String}
    {read : Event α → Option β} {Says : String → β → Prop}
    (hstart : ∀ e, start.toList <+: (shown e).toList ↔ (read e).isSome)
    (hword : ∀ e b, read e = some b → Says (shown e) b) (events : List (Event α)) :
    List.Forall₂ Says (startingWith start (events.map shown)) (events.filterMap read) := by
  unfold startingWith
  induction events with
  | nil => exact .nil
  | cons e es ih =>
    have he := hstart e
    rw [← List.isPrefixOf_iff_prefix] at he
    rw [List.map_cons]
    cases hread : read e with
    | none =>
      rw [List.filterMap_cons_none hread, List.filter_cons_of_neg (by rw [he, hread]; simp)]
      exact ih
    | some b =>
      rw [List.filterMap_cons_some hread, List.filter_cons_of_pos (by rw [he, hread]; rfl)]
      exact .cons (hword e b hread) ih

section

variable (showValue : α → String)

@[simp] theorem Event.shown_fetch (pc : Int) (slot : Slot) :
    Event.shown showValue (.fetch pc slot) = "pc=" ++ toString pc ++ " op=" ++ slot.shown := rfl

@[simp] theorem Event.shown_took (v : α) :
    Event.shown showValue (.took v) = "inbox: " ++ showValue v := rfl

@[simp] theorem Event.shown_gave (v : α) :
    Event.shown showValue (.gave v) = "outbox: " ++ showValue v := rfl

@[simp] theorem Event.shown_jumping (label : String) :
    Event.shown showValue (.jumping label) = "jump to " ++ label := rfl

theorem startingWith_pc (events : List (Event α)) :
    List.Forall₂ (fun m a => ∃ op, m = "pc=" ++ toString a ++ " op=" ++ op)
      (startingWith "pc=" (events.map (Event.shown showValue))) (fetchedIn events) := by
  apply forall₂_startingWith
  · intro e
    cases e <;> simp [Event.fetched?]
  · rintro (⟨pc, slot⟩ | _ | _ | _) a ⟨⟩
    exact ⟨slot.shown, rfl⟩

theorem startingWith_inbox (events : List (Event α)) :
    startingWith "inbox:" (events.map (Event.shown showValue)) =
      (takenIn events).map fun v => "inbox: " ++ showValue v := by
  rw [← List.forall₂_eq_eq_eq, List.forall₂_map_right_iff]
  apply forall₂_startingWith
  · intro e
    cases e <;> simp [Event.taken?]
  · rintro (_ | v | _ | _) a ⟨⟩
    rfl

theorem startingWith_outbox (events : List (Event α)) :
    startingWith "outbox:" (events.map (Event.shown showValue)) =
      (givenIn events).map fun v => "outbox: " ++ showValue v := by
  rw [← List.forall₂_eq_eq_eq, List.forall₂_map_right_iff]
  apply forall₂_startingWith
  · intro e
    cases e <;> simp [Event.given?]
  · rintro (_ | _ | v | _) a ⟨⟩
    rfl

theorem Event.eq_fetch_of_shown {e : Event α} {a : Int} {op : String}
    (h : e.shown showValue = "pc=" ++ toString a ++ " op=" ++ op) :
    ∃ slot, e = .fetch a slot ∧ op = slot.shown := by
  rw [← String.toList_inj] at h
  cases e with
  | fetch pc slot =>
    have hsame : (toString pc).toList ++ ' ' :: ("op=" ++ slot.shown).toList =
        (toString a).toList ++ ' ' :: ("op=" ++ op).toList := by
      simpa using h
    obtain ⟨rfl, hop⟩ := Text.toString_append_cons_inj (by decide) (by decide) hsame
    exact ⟨slot, rfl, ((String.append_right_inj "op=").mp (String.toList_inj.mp hop)).symm⟩
  | took | gave | jumping => simp at h

end

/-- **The log of a run is a faithful trace.** However the run ends, an instruction is announced for
each cycle, and one more if it failed. What is announced is what is at the address; the first
address is zero, and each other one is the one after it or, after a jump, that of its label. The
messages of the inbox spell the values that were taken, and those of the outbox what was put out,
both in their order. -/
theorem run_log_is_faithful (p : Program) (limit : Nat) (inbox : List Cell) :
    let s := run p limit inbox
    let log := s.events.map (Event.shown Cell.shown)
    let announced := startingWith "pc=" log
    (∀ r, s.result = .ok r → announced.length = r.cycles) ∧
    (∀ f, s.result = .error f →
      announced.length = if f = .cycleLimit limit then s.left.cycles else s.left.cycles + 1) ∧
    (∀ (a : Int) (op : String), "pc=" ++ toString a ++ " op=" ++ op ∈ log →
      ∃ slot, p.slot? a = some slot ∧ op = slot.shown) ∧
    (∃ addresses : List Int,
      List.Forall₂ (fun m a => ∃ op, m = "pc=" ++ toString a ++ " op=" ++ op) announced addresses ∧
      (∀ a, addresses.head? = some a → a = 0) ∧
      addresses.IsChain fun a b => p.follow? a = some b) ∧
    (∃ taken, taken ++ s.rest = inbox ∧
      startingWith "inbox:" log = taken.map fun v => "inbox: " ++ v.shown) ∧
    startingWith "outbox:" log = s.outbox.map fun v => "outbox: " ++ v.shown := by
  intro s log announced
  have hsaid := startingWith_pc Cell.shown s.events
  obtain ⟨hok, herror⟩ := length_fetchedIn_events p limit inbox
  have hlength : announced.length = (fetchedIn s.events).length := hsaid.length_eq
  rw [hlength]
  refine ⟨hok, herror, ?slots, ⟨_, hsaid, fetchedIn_events_chain p limit inbox⟩,
    ⟨_, takenIn_append_rest p limit inbox, startingWith_inbox _ _⟩, ?outbox⟩
  case slots =>
    intro a op hmem
    obtain ⟨e, he, hshown⟩ := List.mem_map.mp hmem
    obtain ⟨slot, rfl, hop⟩ := Event.eq_fetch_of_shown _ hshown
    exact ⟨slot, trueOf_of_mem_events he, hop⟩
  case outbox =>
    rw [← givenIn_events]
    exact startingWith_outbox _ _

end Mailroom.Machine
