import Mailroom.Proofs.Machine.Steps

/-!
# The order of the values

A value goes from the inbox into the hand and from there into the outbox, or it is lost when the
next one is taken in hand. So what has gone out, with what is in hand, is a part of what has been
taken, in the order of taking. That much is `Kept.inOrder`, and it needs only the two lists.

Which value goes out when depends on the instructions done: an outbox instruction gives away what
the last inbox instruction took, and none comes between the two but jumps (`TookLast`). `Kept` is
the whole invariant over the instructions done so far, with one lemma for each instruction.
-/

set_option autoImplicit false

namespace Mailroom.Machine

variable {α : Type} {p : Program} {xs : List α} {is : List Instruction}

/-- The last of the instructions that moves a value at all is an inbox instruction, and it took
`v` out of the values `xs`. -/
def TookLast (xs : List α) (is : List Instruction) (v : α) : Prop :=
  ∃ earlier since, is = earlier ++ .inbox :: since ∧ .inbox ∉ since ∧ .outbox ∉ since ∧
    xs[earlier.count .inbox]? = some v

theorem tookLast_inbox {v : α} (hv : xs[is.count .inbox]? = some v) :
    TookLast xs (is ++ [.inbox]) v :=
  ⟨is, [], rfl, by simp, by simp, hv⟩

theorem TookLast.jump {v : α} (h : TookLast xs is v) (label : String) :
    TookLast xs (is ++ [.jump label]) v := by
  obtain ⟨earlier, since, rfl, hi, ho, hv⟩ := h
  exact ⟨earlier, since ++ [.jump label], by simp, by simp [hi], by simp [ho], hv⟩

theorem TookLast.getElem? {v : α} (h : TookLast xs is v) :
    ∃ k, is.count .inbox = k + 1 ∧ xs[k]? = some v := by
  obtain ⟨earlier, since, rfl, hi, -, hv⟩ := h
  refine ⟨earlier.count .inbox, ?_, hv⟩
  rw [List.count_append, List.count_cons_self, List.count_eq_zero_of_not_mem hi]

theorem TookLast.inbox_mem {v : α} {between : List Instruction}
    (h : TookLast xs (is ++ .outbox :: between) v) : .inbox ∈ between := by
  obtain ⟨earlier, since, heq, -, ho, -⟩ := h
  rcases List.append_eq_append_iff.mp heq with ⟨mid, rfl, hmid⟩ | ⟨mid, rfl, hmid⟩
  · cases mid with
    | nil => simp at hmid
    | cons i mid =>
      simp only [List.cons_append, List.cons.injEq] at hmid
      rw [hmid.2]
      simp
  · -- here the outbox instruction would come after the last inbox instruction
    have hmem : Instruction.outbox ∈ Instruction.inbox :: since := by rw [hmid]; simp
    simp [ho] at hmem

/-- How the values `xs` of the inbox stand once the instructions have been done: what is in hand,
what has been put out and what is left. -/
structure Kept (xs : List α) (is : List Instruction) (acc : Option α) (out rest : List α) :
    Prop where
  enough : is.count .inbox ≤ xs.length
  rest_eq : rest = xs.drop (is.count .inbox)
  inOrder : (out ++ acc.toList).Sublist (xs.take (is.count .inbox))
  size : out.length = is.count .outbox
  held : ∀ v, acc = some v → TookLast xs is v
  given : ∀ before, before ++ [.outbox] <+: is →
    ∃ v, TookLast xs before v ∧ out[before.count .outbox]? = some v

theorem kept_nil (xs : List α) : Kept xs [] none [] xs where
  enough := by simp
  rest_eq := by simp
  inOrder := by simp
  size := by simp
  held := by simp
  given := by simp

theorem Kept.take {acc : Option α} {out rest : List α} {v : α}
    (h : Kept xs is acc out (v :: rest)) : Kept xs (is ++ [.inbox]) (some v) out rest := by
  have hv : xs[is.count .inbox]? = some v := by
    rw [← List.head?_drop, ← h.rest_eq]
    rfl
  have hcount : (is ++ [Instruction.inbox]).count Instruction.inbox = is.count .inbox + 1 := by
    simp
  refine ⟨?_, ?_, ?_, ?_, ?_, ?_⟩
  · rw [hcount]
    exact (List.getElem?_eq_some_iff.mp hv).1
  · rw [hcount, ← List.drop_drop, ← h.rest_eq]
    rfl
  · -- the value that was in hand is lost, and the new one is the last of those taken
    rw [hcount, List.take_add_one, hv]
    exact ((List.sublist_append_left _ _).trans h.inOrder).append (.refl _)
  · simpa using h.size
  · intro w hw
    cases hw
    exact tookLast_inbox hv
  · intro before hb
    rcases List.prefix_concat_iff.mp hb with heq | hb
    · simp at heq
    · exact h.given before hb

theorem Kept.give {out rest : List α} {v : α} (h : Kept xs is (some v) out rest) :
    Kept xs (is ++ [.outbox]) none (out ++ [v]) rest := by
  have hcount : (is ++ [Instruction.outbox]).count Instruction.inbox = is.count .inbox := by simp
  refine ⟨?_, ?_, ?_, ?_, ?_, ?_⟩
  · rw [hcount]
    exact h.enough
  · rw [hcount]
    exact h.rest_eq
  · rw [hcount]
    simpa using h.inOrder
  · simp [h.size]
  · intro w hw
    cases hw
  · intro before hb
    rcases List.prefix_concat_iff.mp hb with heq | hb
    · obtain rfl : before = is := List.append_cancel_right heq
      exact ⟨v, h.held v rfl, by simp [← h.size]⟩
    · obtain ⟨w, hw, hout⟩ := h.given before hb
      have hlt := (List.getElem?_eq_some_iff.mp hout).1
      exact ⟨w, hw, by rw [List.getElem?_append_left hlt, hout]⟩

theorem Kept.jump {acc : Option α} {out rest : List α} (h : Kept xs is acc out rest)
    (label : String) : Kept xs (is ++ [.jump label]) acc out rest := by
  have hcount : (is ++ [Instruction.jump label]).count Instruction.inbox = is.count .inbox := by
    simp
  refine ⟨?_, ?_, ?_, ?_, ?_, ?_⟩
  · rw [hcount]
    exact h.enough
  · rw [hcount]
    exact h.rest_eq
  · rw [hcount]
    exact h.inOrder
  · simpa using h.size
  · intro v hv
    exact (h.held v hv).jump label
  · intro before hb
    rcases List.prefix_concat_iff.mp hb with heq | hb
    · simp at heq
    · exact h.given before hb

theorem Does.keeps {c c' : Config α} {i : Instruction} (hd : Does p c i c')
    (h : Kept xs is c.state.acc c.state.output c.inbox) :
    Kept xs (is ++ [i]) c'.state.acc c'.state.output c'.inbox := by
  cases hd with
  | inbox hs hi =>
    rw [hi] at h
    exact h.take
  | outbox hs ha =>
    rw [ha] at h
    exact h.give
  | @jump label address hs hl => exact h.jump label

theorem Steps.kept {c : Config α} (h : Steps p (.start xs) is c) :
    Kept xs is c.state.acc c.state.output c.inbox :=
  h.invariant (motive := fun is c => Kept xs is c.state.acc c.state.output c.inbox) (kept_nil xs)
    fun hkept hd => hd.keeps hkept

/-! ## Positions -/

theorem exists_positions {ys : List α} {k : Nat} (h : ys.Sublist (xs.take k)) :
    ∃ positions : List Nat, positions.Pairwise (· < ·) ∧ (∀ i ∈ positions, i < k) ∧
      ys.map some = positions.map fun i => xs[i]? := by
  -- each value is paired with its position, and the part is taken of the pairs
  have hpairs : xs.take k = ((xs.take k).zipIdx).map Prod.fst := by simp
  rw [hpairs] at h
  obtain ⟨picked, hpicked, rfl⟩ := List.sublist_map_iff.mp h
  have hat : ∀ x ∈ picked, (xs.take k)[x.2]? = some x.1 := fun x hx =>
    List.mem_zipIdx_iff_getElem?.mp (hpicked.subset hx)
  refine ⟨picked.map Prod.snd, ?_, ?_, ?_⟩
  · have hsub := hpicked.map Prod.snd
    rw [List.zipIdx_map_snd] at hsub
    exact List.Pairwise.sublist hsub List.pairwise_lt_range'
  · intro i hi
    obtain ⟨x, hx, rfl⟩ := List.mem_map.mp hi
    have hlt := (List.getElem?_eq_some_iff.mp (hat x hx)).1
    rw [List.length_take] at hlt
    omega
  · simp only [List.map_map]
    refine List.map_congr_left fun x hx => ?_
    have hx' := hat x hx
    rw [List.getElem?_take] at hx'
    split at hx'
    · exact hx'.symm
    · cases hx'

/-! ## Runs -/

/-- What a run has put into the outbox: the result has it when the run finished, and the machine
when it failed. -/
def Stopped.outbox (s : Stopped α) : List α :=
  match s.result with
  | .ok r => r.output
  | .error _ => s.left.output

theorem Stopped.outbox_eq (s : Stopped α) : s.outbox = s.final.state.output := by
  unfold Stopped.outbox Stopped.result Stopped.left
  cases s.fault <;> rfl

theorem Stopped.left_acc (s : Stopped α) : s.left.acc = s.final.state.acc := by
  unfold Stopped.left
  cases s.fault <;> rfl

theorem Stopped.left_pc (s : Stopped α) : s.left.pc = s.final.state.pc := by
  unfold Stopped.left
  cases s.fault <;> rfl

theorem Stopped.left_cycles (s : Stopped α) : s.left.cycles = s.final.state.cycles := by
  unfold Stopped.left
  cases s.fault <;> rfl

theorem Steps.takes {c : Config α} {before : List Instruction} (h : Steps p (.start xs) is c)
    (hb : before ++ [.inbox] <+: is) :
    ∃ d d' v, Steps p (.start xs) before d ∧ Does p d .inbox d' ∧ d'.state.acc = some v ∧
      xs[before.count .inbox]? = some v := by
  obtain ⟨after, rfl⟩ := hb
  obtain ⟨d', hs', -⟩ := h.split
  obtain ⟨d, hs, hlast⟩ := hs'.split
  cases hlast with
  | @cons _ d₁ _ _ _ hd hr =>
    obtain ⟨v, hacc⟩ : ∃ v, d₁.state.acc = some v := by
      cases hd
      exact ⟨_, rfl⟩
    obtain ⟨k, hk, hv⟩ := ((hd.keeps hs.kept).held v hacc).getElem?
    have hcount : k = before.count .inbox := by simpa using hk.symm
    exact ⟨d, d₁, v, hs, hd, hacc, hcount ▸ hv⟩

/-- **No value is made up, doubled or moved before another.** However a run ends, it has taken the
first values of the inbox, one for each inbox instruction. What it has put out and what it holds
stand among them at positions that go up, and what it holds is the last. Each outbox instruction
puts out what the last inbox instruction before it took, and there is one between any two of
them. -/
theorem run_moves_values_in_order (p : Program) (limit : Nat) (inbox : List α) :
    let s := run p limit inbox
    let done := executed p limit inbox
    let k := done.count .inbox
    done.length = s.left.cycles ∧
    (k ≤ inbox.length ∧ s.rest = inbox.drop k) ∧
    (∀ before, before ++ [.inbox] <+: done →
      ∃ c c' v, Steps p (.start inbox) before c ∧ Does p c .inbox c' ∧ c'.state.acc = some v ∧
        inbox[before.count .inbox]? = some v) ∧
    (∃ positions : List Nat, positions.Pairwise (· < ·) ∧ (∀ i ∈ positions, i < k) ∧
      (s.outbox ++ s.left.acc.toList).map some = positions.map fun i => inbox[i]?) ∧
    (∀ v, s.left.acc = some v → ∃ j, k = j + 1 ∧ inbox[j]? = some v) ∧
    s.outbox.length = done.count .outbox ∧
    (∀ before, before ++ [.outbox] <+: done →
      ∃ v, TookLast inbox before v ∧ s.outbox[before.count .outbox]? = some v) ∧
    ∀ before between, (before ++ .outbox :: between) ++ [.outbox] <+: done → .inbox ∈ between := by
  intro s done k
  obtain ⟨c, hs, hstate, hinbox⟩ := exists_steps_executed p limit inbox
  have hkept := hs.kept
  rw [s.outbox_eq, s.left_acc, s.left_cycles, hstate]
  refine ⟨?_, ⟨hkept.enough, hinbox.trans hkept.rest_eq⟩, fun before hb => hs.takes hb,
    exists_positions hkept.inOrder, fun v hv => (hkept.held v hv).getElem?, hkept.size,
    hkept.given, ?_⟩
  · rw [hs.cycles]
    simp [Config.start, State.initial, done]
  · -- what the second outbox puts out was taken after the first, which had emptied the hand
    intro before between hb
    obtain ⟨v, hv, -⟩ := hkept.given _ hb
    exact hv.inbox_mem

end Mailroom.Machine
