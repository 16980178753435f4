import Mailroom.Proofs.Machine.Control
import Mailroom.Proofs.Machine.Order

/-!
# Values are moved and never looked at

Two facts about what the values of an inbox cannot do. A function on values goes through a run as
it is (`run_map`), because no instruction looks at a value. And the values behind those that a run
takes can be any others (`Steps.frame`), because no instruction looks ahead.

Together they say that finishing is a matter of the program alone: a program does the same
instructions wherever it finishes (`Finishes.same_instructions`), and it finishes on every inbox
that is long enough for them (`Finishes.on`). Both go through the run on positions, that is on
the inbox `[0, 1, 2, ..]`: `zipIdx` pairs the values with the positions, and the run on the pairs
is seen from either side.
-/

set_option autoImplicit false

namespace Mailroom.Machine

variable {α β : Type} {p : Program}

/-! ## Functions on values -/

def Event.map (f : α → β) : Event α → Event β
  | .fetch pc slot => .fetch pc slot
  | .took v => .took (f v)
  | .gave v => .gave (f v)
  | .jumping label => .jumping label

def Config.map (f : α → β) (c : Config α) : Config β where
  state :=
    { pc := c.state.pc, acc := c.state.acc.map f, cycles := c.state.cycles,
      output := c.state.output.map f }
  inbox := c.inbox.map f
  log := c.log.map (Event.map f)

def Stopped.map (f : α → β) (s : Stopped α) : Stopped β := ⟨s.fault, s.final.map f⟩

theorem Does.map (f : α → β) {c c' : Config α} {i : Instruction} (h : Does p c i c') :
    Does p (c.map f) i (c'.map f) := by
  cases h with
  | inbox hs hi => exact .inbox hs (by simp [Config.map, hi])
  | @outbox v hs ha =>
    have hd : Does p (c.map f) .outbox _ := .outbox (v := f v) hs (by simp [Config.map, ha])
    simpa [Config.map, Event.map] using hd
  | jump hs hl => exact .jump hs hl

theorem Fails.map (f : α → β) {c d : Config α} {e : Fault} (h : Fails p c e d) :
    Fails p (c.map f) e (d.map f) := by
  cases h with
  | endOfInput hs hi => exact .endOfInput hs (by simp [Config.map, hi])
  | emptyAccumulator hs ha => exact .emptyAccumulator hs (by simp [Config.map, ha])
  | undefinedLabel hs hl => exact .undefinedLabel hs hl
  | notInstruction hs => exact .notInstruction hs

theorem Steps.map (f : α → β) {c c' : Config α} {is : List Instruction} (h : Steps p c is c') :
    Steps p (c.map f) is (c'.map f) := by
  induction h with
  | nil c => exact .nil _
  | cons hd _ ih => exact .cons (hd.map f) ih

theorem Ends.map (f : α → β) {limit budget : Nat} {c : Config α} {s : Stopped α}
    (h : Ends p limit budget c s) : Ends p limit budget (c.map f) (s.map f) := by
  cases h with
  | finished hs hh hb => exact .finished (hs.map f) hh hb
  | failed hs hf hb => exact .failed (hs.map f) (hf.map f) hb
  | exceeded hs hb => exact .exceeded (hs.map f) hb

theorem run_map (f : α → β) (p : Program) (limit : Nat) (inbox : List α) :
    run p limit (inbox.map f) = (run p limit inbox).map f :=
  Ends.runFrom_eq ((ends_runFrom p limit limit (.start inbox)).map f)

theorem Finishes.map (f : α → β) {inbox : List α} {is : List Instruction} {c : Config α}
    (h : Finishes p inbox is c) : Finishes p (inbox.map f) is (c.map f) :=
  ⟨h.steps.map f, h.halted⟩

theorem Finishes.of_map {f : α → β} {inbox : List α} {is : List Instruction} {d : Config β}
    (h : Finishes p (inbox.map f) is d) : ∃ c, Finishes p inbox is c ∧ c.map f = d := by
  have hrun := h.run_eq (Nat.le_refl is.length)
  rw [run_map] at hrun
  have hfault : (run p is.length inbox).fault = none := congrArg Stopped.fault hrun
  obtain ⟨js, c, hjs, -⟩ := exists_finishes hfault
  obtain ⟨rfl, hd⟩ := (hjs.map f).unique h
  exact ⟨c, hjs, hd⟩

/-! ## What has not been taken -/

/-- An instruction takes values from the front of the inbox, and the rest can be any other. -/
theorem Does.frame {c c' : Config α} {i : Instruction} (h : Does p c i c') :
    ∃ taken, taken.length = [i].count .inbox ∧ c.inbox = taken ++ c'.inbox ∧
      ∀ rest, Does p { c with inbox := taken ++ rest } i { c' with inbox := rest } := by
  cases h with
  | @inbox v rest hs hi => exact ⟨[v], by simp, hi, fun rest => .inbox hs rfl⟩
  | outbox hs ha => exact ⟨[], by simp, rfl, fun rest => .outbox hs ha⟩
  | jump hs hl => exact ⟨[], by simp, rfl, fun rest => .jump hs hl⟩

theorem Steps.frame {c c' : Config α} {is : List Instruction} (h : Steps p c is c') :
    ∃ taken, taken.length = is.count .inbox ∧ c.inbox = taken ++ c'.inbox ∧
      ∀ rest, Steps p { c with inbox := taken ++ rest } is { c' with inbox := rest } := by
  induction h with
  | nil c => exact ⟨[], rfl, rfl, fun rest => .nil _⟩
  | @cons c c' c'' i is hd _ ih =>
    obtain ⟨first, hlen₁, hin₁, hd'⟩ := hd.frame
    obtain ⟨more, hlen₂, hin₂, hs'⟩ := ih
    refine ⟨first ++ more, ?_, ?_, fun rest => ?_⟩
    · rw [List.length_append, hlen₁, hlen₂, ← List.count_append]
      rfl
    · rw [hin₁, hin₂, List.append_assoc]
    · have hd'' := hd' (more ++ rest)
      rw [← List.append_assoc] at hd''
      exact .cons hd'' (hs' rest)

theorem Finishes.of_take_eq {inbox other : List α} {is : List Instruction} {c : Config α}
    (h : Finishes p inbox is c)
    (ht : other.take (is.count .inbox) = inbox.take (is.count .inbox)) :
    Finishes p other is { c with inbox := other.drop (is.count .inbox) } := by
  obtain ⟨taken, hlen, hin, hs⟩ := h.steps.frame
  have htaken : taken = other.take (is.count .inbox) := by
    rw [ht, ← hlen]
    simp only [Config.start] at hin
    rw [hin, List.take_left]
  have hother : taken ++ other.drop (is.count .inbox) = other := by
    rw [htaken, List.take_append_drop]
  have hs' := hs (other.drop (is.count .inbox))
  rw [hother] at hs'
  exact ⟨hs', h.halted⟩

/-! ## Positions in place of values -/

theorem Finishes.enough {inbox : List α} {is : List Instruction} {c : Config α}
    (h : Finishes p inbox is c) : is.count .inbox ≤ inbox.length :=
  h.steps.kept.enough

theorem Finishes.positions {inbox : List α} {is : List Instruction} {c : Config α}
    (h : Finishes p inbox is c) : ∃ d, Finishes p (List.range (is.count .inbox)) is d := by
  have hpairs : inbox.zipIdx.map Prod.fst = inbox := by simp
  rw [← hpairs] at h
  obtain ⟨e, he, -⟩ := h.of_map
  have hsnd := he.map Prod.snd
  rw [List.zipIdx_map_snd, ← List.range_eq_range'] at hsnd
  have henough : is.count .inbox ≤ inbox.length := by simpa using hsnd.enough
  refine ⟨_, hsnd.of_take_eq ?_⟩
  rw [List.take_range, List.take_range, Nat.min_self, Nat.min_eq_left henough]

/-- The run on positions says what the run on values does: which values it puts out, and that it
finishes at all. -/
theorem Finishes.select {is : List Instruction} {d : Config Nat} {inbox : List α}
    (h : Finishes p (List.range (is.count .inbox)) is d) (hk : is.count .inbox ≤ inbox.length) :
    ∃ c, Finishes p inbox is c ∧
      c.state.output.map some = d.state.output.map fun i => inbox[i]? := by
  have hlong : Finishes p (List.range inbox.length) is _ := h.of_take_eq (by
    rw [List.take_range, List.take_range, Nat.min_self, Nat.min_eq_left hk])
  have hpairs : inbox.zipIdx.map Prod.snd = List.range inbox.length := by
    rw [List.zipIdx_map_snd, List.range_eq_range']
  rw [← hpairs] at hlong
  obtain ⟨e, he, hed⟩ := hlong.of_map
  have hfst := he.map Prod.fst
  rw [List.zipIdx_map_fst] at hfst
  refine ⟨_, hfst, ?_⟩
  -- every pair that was put out has a value of the inbox beside its position
  have hat : ∀ x ∈ e.state.output, inbox[x.2]? = some x.1 := by
    intro x hx
    have hmem := he.steps.kept.inOrder.subset (List.mem_append_left _ hx)
    exact List.mem_zipIdx_iff_getElem?.mp (List.mem_of_mem_take hmem)
  have hout : d.state.output = e.state.output.map Prod.snd :=
    (congrArg (fun c => c.state.output) hed).symm
  rw [hout]
  simp only [Config.map, List.map_map]
  exact List.map_congr_left fun x hx => (hat x hx).symm

theorem Finishes.on {xs : List α} {is : List Instruction} {c : Config α}
    (h : Finishes p xs is c) {ys : List β} (hk : is.count .inbox ≤ ys.length) :
    ∃ d, Finishes p ys is d := by
  obtain ⟨e, he⟩ := h.positions
  obtain ⟨d, hd, -⟩ := he.select hk
  exact ⟨d, hd⟩

theorem Finishes.same_instructions {xs : List α} {ys : List β} {is js : List Instruction}
    {c : Config α} {d : Config β} (hx : Finishes p xs is c) (hy : Finishes p ys js d) :
    is = js := by
  -- both runs are moved to one inbox that is long enough for either
  let both := List.range (max (is.count .inbox) (js.count .inbox))
  have hlen : both.length = max (is.count .inbox) (js.count .inbox) := List.length_range
  have hix : is.count .inbox ≤ both.length := by omega
  have hjy : js.count .inbox ≤ both.length := by omega
  obtain ⟨c', hx'⟩ := hx.on hix
  obtain ⟨d', hy'⟩ := hy.on hjy
  exact (hx'.unique hy').1

/-! ## Programs as selectors -/

theorem Finishes.exists_result_iff {xs : List β} {is : List Instruction} {c : Config β}
    (h : Finishes p xs is c) (limit : Nat) (inbox : List α) :
    (∃ r, (run p limit inbox).result = .ok r) ↔
      is.count .inbox ≤ inbox.length ∧ is.length ≤ limit := by
  constructor
  · rintro ⟨r, hr⟩
    obtain ⟨js, d, hd, hl, -⟩ := run_result_eq_ok_iff.mp hr
    obtain rfl := hd.same_instructions h
    exact ⟨hd.enough, hl⟩
  · rintro ⟨hk, hl⟩
    obtain ⟨d, hd⟩ := h.on hk
    exact ⟨_, hd.result_eq hl⟩

/-- **A program picks values by their positions.** Either it finishes nowhere, or there are a number
of cycles, a number of values to take and positions among these that hold for every inbox and every
limit: it finishes as soon as the inbox has the values and the limit has the cycles, and then puts
out what stands at the positions. -/
theorem run_selects (p : Program) :
    (∀ (α : Type) (limit : Nat) (inbox : List α) (r : Result α),
      (run p limit inbox).result ≠ .ok r) ∨
    ∃ (cycles k : Nat) (positions : List Nat), cycles ≤ p.size ∧ positions.Pairwise (· < ·) ∧
      (∀ i ∈ positions, i < k) ∧
      ∀ (α : Type) (limit : Nat) (inbox : List α),
        ((∃ r, (run p limit inbox).result = .ok r) ↔ k ≤ inbox.length ∧ cycles ≤ limit) ∧
        ∀ r, (run p limit inbox).result = .ok r →
          r.cycles = cycles ∧ (r.output.map some = positions.map fun i => inbox[i]?) ∧
            (run p limit inbox).rest = inbox.drop k := by
  by_cases hnever : ∀ (α : Type) (limit : Nat) (inbox : List α) (r : Result α),
      (run p limit inbox).result ≠ .ok r
  · exact Or.inl hnever
  · right
    simp only [not_forall, not_not] at hnever
    obtain ⟨β, limit₀, inbox₀, r₀, hr₀⟩ := hnever
    obtain ⟨is, c₀, h₀, -, -⟩ := run_result_eq_ok_iff.mp hr₀
    -- the positions are what the program puts out when it runs on positions
    obtain ⟨d, hd⟩ := h₀.positions
    have hsub : d.state.output.Sublist (List.range (is.count .inbox)) :=
      (List.sublist_append_left _ _).trans
        (hd.steps.kept.inOrder.trans (List.take_sublist _ _))
    refine ⟨is.length, is.count .inbox, d.state.output, h₀.length_le_size,
      List.Pairwise.sublist hsub List.pairwise_lt_range,
      fun i hi => List.mem_range.mp (hsub.subset hi), fun α limit inbox => ?_⟩
    refine ⟨h₀.exists_result_iff limit inbox, fun r hr => ?_⟩
    obtain ⟨hk, hl⟩ := (h₀.exists_result_iff limit inbox).mp ⟨r, hr⟩
    obtain ⟨c, hc, hout⟩ := hd.select hk
    rw [hc.result_eq hl] at hr
    cases hr
    rw [hc.run_eq hl]
    exact ⟨rfl, hout, hc.steps.kept.rest_eq⟩

end Mailroom.Machine
