import Mailroom.Proofs.Program.Print

/-!
# One program behind another

The lines of two programs, one after the other under one header, load to the two programs, one
behind the other. Running it is running the first and then the second on what is left of the inbox.

The run goes through the first program as it does alone: what a jump finds there it finds in the
joined table too. It leaves it at its end and nowhere else, because labels do not lead out of a
program that was loaded (`LabelsInside`), and the end of the first is the start of the second. The
second program is then run at other addresses and with something in hand that it may not have when
it runs alone. It cannot tell, since it would have failed alone if it had ever put out what was not
there. `Behind` is the relation that carries this through.
-/

set_option autoImplicit false
set_option maxRecDepth 10000

namespace Mailroom

namespace Program

variable {p q : Program}

/-! ## Slots and labels of the joined program -/

theorem slot?_append_left {pc : Int} {slot : Slot} (h : p.slot? pc = some slot) :
    (p.append q).slot? pc = some slot := by
  obtain ⟨hnonneg, hlt⟩ := slot?_bounds h
  rw [slot?_of_nonneg hnonneg] at h ⊢
  rw [append, List.getElem?_append_left hlt, h]

theorem slot?_append_right {pc : Int} {slot : Slot} (h : q.slot? pc = some slot) :
    (p.append q).slot? (pc + p.size) = some slot := by
  obtain ⟨hnonneg, -⟩ := slot?_bounds h
  have hpc : (pc + p.size).toNat = p.slots.length + pc.toNat := by
    unfold size
    omega
  rw [slot?_of_nonneg hnonneg] at h
  rw [slot?_of_nonneg (by omega), append, hpc, List.getElem?_append_right (Nat.le_add_right _ _),
    Nat.add_sub_cancel_left, h]

theorem address?_append_left {label : String} {address : Int}
    (h : p.address? label = some address) :
    (p.append q).address? label = some address := by
  rw [address?_append, h, Option.some_or]

theorem address?_append_right {label : String} {address : Int}
    (hd : (p.labels.map Prod.fst).Disjoint (q.labels.map Prod.fst))
    (h : q.address? label = some address) :
    (p.append q).address? label = some (address + p.size) := by
  have hdeclared : label ∈ q.labels.map Prod.fst := by
    rw [← declares_iff, declares, h]
    rfl
  have hnot : p.address? label = none :=
    address?_eq_none_iff.mpr fun hmem => hd hmem hdeclared
  rw [address?_append, hnot, Option.none_or, h]
  rfl

theorem size_append : (p.append q).size = p.size + q.size := List.length_append

end Program

namespace Machine

variable {α : Type} {p q : Program}

/-! ## Running one program behind another -/

theorem Does.append_left {c c' : Config α} {i : Instruction} (h : Does p c i c') :
    Does (p.append q) c i c' := by
  cases h with
  | inbox hs hi => exact .inbox (Program.slot?_append_left hs) hi
  | outbox hs ha => exact .outbox (Program.slot?_append_left hs) ha
  | jump hs hl => exact .jump (Program.slot?_append_left hs) (Program.address?_append_left hl)

theorem Steps.append_left {c c' : Config α} {is : List Instruction} (h : Steps p c is c') :
    Steps (p.append q) c is c' := by
  induction h with
  | nil c => exact .nil c
  | cons hd _ ih => exact .cons hd.append_left ih

/-- The second configuration is the first, so many addresses further and with more in the outbox.
It has in hand what the first has, and may have something where the first has nothing. -/
structure Behind (n : Nat) (before : List α) (c d : Config α) : Prop where
  pc : d.state.pc = c.state.pc + n
  acc : ∀ v, c.state.acc = some v → d.state.acc = some v
  output : d.state.output = before ++ c.state.output
  inbox : d.inbox = c.inbox

theorem Does.behind {c c' d : Config α} {i : Instruction} {before : List α}
    (hd : (p.labels.map Prod.fst).Disjoint (q.labels.map Prod.fst)) (h : Does q c i c')
    (hb : Behind p.size before c d) :
    ∃ d', Does (p.append q) d i d' ∧ Behind p.size before c' d' := by
  have hslot : (p.append q).slot? d.state.pc = some (.instruction i) := by
    rw [hb.pc]
    exact Program.slot?_append_right h.slot
  cases h with
  | @inbox v rest hs hi =>
    refine ⟨_, .inbox hslot (hb.inbox.trans hi), ?_, fun w hw => hw, hb.output, rfl⟩
    rw [hb.pc]
    exact Int.add_right_comm _ _ _
  | @outbox v hs ha =>
    refine ⟨_, .outbox hslot (hb.acc v ha), ?_, ?_, ?_, hb.inbox⟩
    · rw [hb.pc]
      exact Int.add_right_comm _ _ _
    · intro w hw
      cases hw
    · rw [hb.output, List.append_assoc]
  | jump hs hl =>
    exact ⟨_, .jump hslot (Program.address?_append_right hd hl), rfl, hb.acc, hb.output, hb.inbox⟩

theorem Steps.behind {c c' d : Config α} {is : List Instruction} {before : List α}
    (hd : (p.labels.map Prod.fst).Disjoint (q.labels.map Prod.fst)) (h : Steps q c is c')
    (hb : Behind p.size before c d) :
    ∃ d', Steps (p.append q) d is d' ∧ Behind p.size before c' d' := by
  induction h generalizing d with
  | nil c => exact ⟨d, .nil d, hb⟩
  | cons hdoes _ ih =>
    obtain ⟨d₁, hd₁, hb₁⟩ := hdoes.behind hd hb
    obtain ⟨d₂, hd₂, hb₂⟩ := ih hb₁
    exact ⟨d₂, .cons hd₁ hd₂, hb₂⟩

theorem Finishes.append {inbox : List α} {is js : List Instruction} {c d : Config α}
    (hp : p.LabelsInside) (hq : q.LabelsInside)
    (hd : (p.labels.map Prod.fst).Disjoint (q.labels.map Prod.fst)) (h₁ : Finishes p inbox is c)
    (h₂ : Finishes q c.inbox js d) :
    ∃ e, Finishes (p.append q) inbox (is ++ js) e ∧
      e.state.output = c.state.output ++ d.state.output := by
  -- where the first program ends, the second is at its start
  have hseam : Behind p.size c.state.output (.start c.inbox) c :=
    { pc := by simp [h₁.pc_eq_size hp, Config.start, State.initial]
      acc := fun v hv => by cases hv
      output := by simp [Config.start, State.initial]
      inbox := rfl }
  obtain ⟨e, he, hb⟩ := h₂.steps.behind hd hseam
  refine ⟨e, ⟨h₁.steps.append_left.append he, ?_⟩, hb.output⟩
  refine Program.slot?_eq_none_iff.mpr (Or.inr ?_)
  rw [hb.pc, h₂.pc_eq_size hq, Program.size_append]
  omega

end Machine

namespace Program

/-! ## Loading one program behind another -/

theorem filledLines_of_load {header : String} {body : List String} {p : Program}
    (h : load header (Text.joinLines (header :: body)) = .ok p) :
    Text.filledLines (Text.joinLines (header :: body)) =
      header :: Text.filledLines (Text.joinLines body) := by
  rw [Text.joinLines_cons, Text.filledLines_append_newline,
    (isLine_header_of_load h).filledLines_eq]
  rfl

theorem load_joinLines_append {header : String} {body₁ body₂ : List String} {p₁ p₂ : Program}
    (h₁ : load header (Text.joinLines (header :: body₁)) = .ok p₁)
    (h₂ : load header (Text.joinLines (header :: body₂)) = .ok p₂)
    (hd : (p₁.labels.map Prod.fst).Disjoint (p₂.labels.map Prod.fst)) :
    load header (Text.joinLines (header :: (body₁ ++ body₂))) = .ok (p₁.append p₂) := by
  have hlines₁ := filledLines_of_load h₁
  have hlines₂ := filledLines_of_load h₂
  obtain ⟨ls₁, ss₁, hls₁, hsays₁, hnd₁, rfl⟩ := load_eq_ok_iff.mp h₁
  obtain ⟨ls₂, ss₂, hls₂, hsays₂, hnd₂, rfl⟩ := load_eq_ok_iff.mp h₂
  have hbody₁ := List.tail_eq_of_cons_eq (hls₁.symm.trans hlines₁)
  have hbody₂ := List.tail_eq_of_cons_eq (hls₂.symm.trans hlines₂)
  refine load_eq_ok_iff.mpr ⟨ls₁ ++ ls₂, ss₁ ++ ss₂, ?_, List.rel_append hsays₁ hsays₂, ?_,
    (ofStatements_append ss₁ ss₂).symm⟩
  · rw [← List.cons_append, Text.filledLines_joinLines_append, hls₁, hbody₂]
    rfl
  · rw [declaredNames_append]
    refine List.Nodup.append hnd₁ hnd₂ ?_
    rw [← map_fst_labelTable, ← map_fst_labelTable]
    exact hd

/-- **Sequential composition.** Two bodies that declare no name in common load, one after the
other, to the slots of both and the labels of both, those of the second behind the first. Where the
first program finishes and the second finishes on what the first leaves of the inbox, the joined
program does both: it takes the cycles of the two together and puts out first what the first puts
out and then what the second does. -/
theorem load_append_runs_in_turn (header : String) (body₁ body₂ : List String) (p₁ p₂ : Program)
    (h₁ : load header (Text.joinLines (header :: body₁)) = .ok p₁)
    (h₂ : load header (Text.joinLines (header :: body₂)) = .ok p₂)
    (hd : (p₁.labels.map Prod.fst).Disjoint (p₂.labels.map Prod.fst)) :
    ∃ p, load header (Text.joinLines (header :: (body₁ ++ body₂))) = .ok p ∧
      p.slots = p₁.slots ++ p₂.slots ∧
      p.labels = p₁.labels ++ p₂.labels.map (fun l => (l.1, l.2 + (p₁.slots.length : Int))) ∧
      ∀ (α : Type) (inbox : List α) (k limit₁ limit₂ limit : Nat) (r₁ r₂ : Machine.Result α),
        (Machine.run p₁ limit₁ inbox).result = .ok r₁ →
        (Machine.run p₁ limit₁ inbox).rest = inbox.drop k →
        (Machine.run p₂ limit₂ (inbox.drop k)).result = .ok r₂ →
        r₁.cycles + r₂.cycles ≤ limit →
        (Machine.run p limit inbox).result =
          .ok ⟨r₁.cycles + r₂.cycles, r₁.output ++ r₂.output⟩ := by
  refine ⟨p₁.append p₂, load_joinLines_append h₁ h₂ hd, rfl, rfl, ?_⟩
  intro α inbox k limit₁ limit₂ limit r₁ r₂ hr₁ hrest hr₂ hlimit
  obtain ⟨is, c, hfin₁, hl₁, rfl⟩ := Machine.run_result_eq_ok_iff.mp hr₁
  have hleft : inbox.drop k = c.inbox := by
    rw [← hrest, hfin₁.run_eq hl₁]
    rfl
  rw [hleft] at hr₂
  obtain ⟨js, d, hfin₂, -, rfl⟩ := Machine.run_result_eq_ok_iff.mp hr₂
  -- the first program ends at its last label or behind it, which is where the second starts
  obtain ⟨e, he, hout⟩ := hfin₁.append (labelsInside_of_load h₁) (labelsInside_of_load h₂) hd hfin₂
  have hlen : (is ++ js).length = is.length + js.length := List.length_append
  simp only at hlimit ⊢
  rw [he.result_eq (by omega), hlen, hout]

/-- The first program ends by a jump and with a value in hand; the second jumps back and forth. -/
theorem load_append_runs_in_turn_across_seam :
    ∃ p, load "HRM" (Text.joinLines ("HRM" :: (["INBOX", "JUMP end", "OUTBOX", "end:"] ++
        ["JUMP go", "back:", "OUTBOX", "JUMP out", "go:", "INBOX", "JUMP back", "out:"]))) = .ok p ∧
      p.labels = [("end", 3), ("back", 4), ("go", 6), ("out", 8)] ∧
      (Machine.run p 7 [7, 8]).result = .ok ⟨7, [8]⟩ := by
  obtain ⟨p, hp, -, hlabels, hrun⟩ := load_append_runs_in_turn "HRM"
    ["INBOX", "JUMP end", "OUTBOX", "end:"]
    ["JUMP go", "back:", "OUTBOX", "JUMP out", "go:", "INBOX", "JUMP back", "out:"]
    ⟨[.instruction .inbox, .instruction (.jump "end"), .instruction .outbox], [("end", 3)]⟩
    ⟨[.instruction (.jump "go"), .instruction .outbox, .instruction (.jump "out"),
      .instruction .inbox, .instruction (.jump "back")], [("back", 1), ("go", 3), ("out", 5)]⟩
    rfl rfl (by simp)
  exact ⟨p, hp, hlabels, hrun Nat [7, 8] 1 2 5 7 ⟨2, []⟩ ⟨5, [8]⟩ rfl rfl rfl (Nat.le_refl 7)⟩

end Program

end Mailroom
