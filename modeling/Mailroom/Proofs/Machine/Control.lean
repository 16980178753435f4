import Mailroom.Proofs.Machine.Steps
import Mathlib.Data.Finset.Card

/-!
# Where control goes

The address after an instruction depends on the address before it and on nothing else, so the
addresses of a run are the walk of one partial function, `follow?`, from zero on. It leaves the
program exactly where it is not defined any more.

A walk of more instructions than the program has slots comes to some address twice, and from then
on it goes round for ever (`isSome_walk?_of_size_lt`). A run that finishes has left the program, so
it has come to no address twice (`Finishes.length_le_size`).

Labels may lead anywhere. Where they all lead into the program or to its end (`LabelsInside`),
control never leaves it but through the end (`Finishes.pc_eq_size`).
-/

set_option autoImplicit false

namespace Mailroom

namespace Program

variable {p : Program}

/-- The address that comes after an address, when the instruction there is done. -/
def follow? (p : Program) (pc : Int) : Option Int :=
  match p.slot? pc with
  | some (.instruction (.jump label)) => p.address? label
  | some (.instruction .inbox) => some (pc + 1)
  | some (.instruction .outbox) => some (pc + 1)
  | _ => none

/-- The address that comes so many instructions after an address. -/
def walk? (p : Program) : Nat → Int → Option Int
  | 0, pc => some pc
  | n + 1, pc => (p.follow? pc).bind (walk? p n)

theorem walk?_add (m n : Nat) (pc : Int) :
    p.walk? (m + n) pc = (p.walk? m pc).bind (p.walk? n) := by
  induction m generalizing pc with
  | zero => simp [walk?]
  | succ m ih =>
    rw [Nat.add_right_comm, walk?, walk?, Option.bind_assoc]
    congr 1
    exact funext ih

theorem isSome_walk?_of_le {m n : Nat} {pc : Int} (hmn : m ≤ n) (h : (p.walk? n pc).isSome) :
    (p.walk? m pc).isSome := by
  obtain ⟨k, rfl⟩ := Nat.exists_eq_add_of_le hmn
  rw [walk?_add] at h
  exact Option.isSome_of_isSome_bind h

theorem slot?_bounds {pc : Int} {slot : Slot} (h : p.slot? pc = some slot) :
    0 ≤ pc ∧ pc.toNat < p.size := by
  unfold slot? at h
  split at h
  · cases h
  · rename_i hneg
    exact ⟨Int.not_lt.mp hneg, (List.getElem?_eq_some_iff.mp h).1⟩

theorem slot?_of_nonneg {pc : Int} (h : 0 ≤ pc) : p.slot? pc = p.slots[pc.toNat]? :=
  if_neg (Int.not_lt.mpr h)

theorem mem_slots_of_slot? {pc : Int} {slot : Slot} (h : p.slot? pc = some slot) :
    slot ∈ p.slots := by
  rw [slot?_of_nonneg (slot?_bounds h).1] at h
  exact List.mem_of_getElem? h

theorem slot?_eq_none_iff {pc : Int} : p.slot? pc = none ↔ pc < 0 ∨ (p.size : Int) ≤ pc := by
  unfold slot? size
  split
  · rename_i hneg
    exact iff_of_true rfl (Or.inl hneg)
  · rw [List.getElem?_eq_none_iff]
    omega

theorem follow?_of_no_slot {pc : Int} (h : p.slot? pc = none) : p.follow? pc = none := by
  simp [follow?, h]

theorem bounds_of_follow? {pc : Int} (h : (p.follow? pc).isSome) :
    0 ≤ pc ∧ pc.toNat < p.size := by
  cases hs : p.slot? pc with
  | none => simp [follow?_of_no_slot hs] at h
  | some slot => exact slot?_bounds hs

theorem isSome_walk?_of_loop {d : Nat} {pc : Int} (hd : 0 < d) (h : p.walk? d pc = some pc)
    (n : Nat) : (p.walk? n pc).isSome := by
  induction n using Nat.strongRecOn with
  | ind n ih =>
    by_cases hn : n ≤ d
    · exact isSome_walk?_of_le hn (by simp [h])
    · -- once round is taken off the walk
      have hsplit : n = d + (n - d) := by omega
      rw [hsplit, walk?_add, h]
      exact ih (n - d) (by omega)

theorem walk?_bounds {n i : Nat} {pc : Int} (h : (p.walk? n pc).isSome) (hi : i < n) :
    ∃ a, p.walk? i pc = some a ∧ 0 ≤ a ∧ a.toNat < p.size := by
  have hnext : (p.walk? (i + 1) pc).isSome := isSome_walk?_of_le hi h
  rw [walk?_add] at hnext
  obtain ⟨a, ha⟩ := Option.isSome_iff_exists.mp (Option.isSome_of_isSome_bind hnext)
  rw [ha, Option.bind_some, walk?] at hnext
  exact ⟨a, ha, bounds_of_follow? (Option.isSome_of_isSome_bind hnext)⟩

/-- A walk of more instructions than there are slots comes to an address twice. -/
theorem exists_walk?_repeat {n : Nat} {pc : Int} (hn : p.size < n) (h : (p.walk? n pc).isSome) :
    ∃ i j a, i < j ∧ p.walk? i pc = some a ∧ p.walk? j pc = some a := by
  have hcard : (Finset.range p.size).card < (Finset.range n).card := by simpa using hn
  have hmaps : ∀ i ∈ Finset.range n,
      ((p.walk? i pc).getD 0).toNat ∈ Finset.range p.size := by
    intro i hi
    obtain ⟨a, ha, -, hlt⟩ := walk?_bounds h (Finset.mem_range.mp hi)
    simpa [ha] using hlt
  obtain ⟨i, hi, j, hj, hne, heq⟩ :=
    Finset.exists_ne_map_eq_of_card_lt_of_maps_to hcard hmaps
  obtain ⟨a, ha, ha0, -⟩ := walk?_bounds h (Finset.mem_range.mp hi)
  obtain ⟨b, hb, hb0, -⟩ := walk?_bounds h (Finset.mem_range.mp hj)
  have hab : a = b := by
    simp only [ha, hb, Option.getD_some] at heq
    omega
  subst hab
  rcases Nat.lt_or_gt_of_ne hne with hlt | hgt
  · exact ⟨i, j, a, hlt, ha, hb⟩
  · exact ⟨j, i, a, hgt, hb, ha⟩

/-- A walk of more instructions than there are slots never ends. -/
theorem isSome_walk?_of_size_lt {n : Nat} {pc : Int} (hn : p.size < n)
    (h : (p.walk? n pc).isSome) (m : Nat) : (p.walk? m pc).isSome := by
  obtain ⟨i, j, a, hij, hi, hj⟩ := exists_walk?_repeat hn h
  have hloop : p.walk? (j - i) a = some a := by
    have hsplit : j = i + (j - i) := by omega
    rw [hsplit, walk?_add, hi] at hj
    exact hj
  by_cases hmi : m ≤ i
  · exact isSome_walk?_of_le hmi (by simp [hi])
  · have hsplit : m = i + (m - i) := by omega
    rw [hsplit, walk?_add, hi]
    exact isSome_walk?_of_loop (by omega) hloop (m - i)

/-- Every label leads into the program or to its end. -/
def LabelsInside (p : Program) : Prop :=
  ∀ label address, p.address? label = some address → 0 ≤ address ∧ address ≤ p.size

end Program

namespace Machine

variable {α : Type} {p : Program}

theorem Does.follow?_eq {c c' : Config α} {i : Instruction} (h : Does p c i c') :
    p.follow? c.state.pc = some c'.state.pc := by
  cases h with
  | inbox hs _ => simp [Program.follow?, hs]
  | outbox hs _ => simp [Program.follow?, hs]
  | jump hs hl => simp [Program.follow?, hs, hl]

theorem Steps.walk?_eq {c c' : Config α} {is : List Instruction} (h : Steps p c is c') :
    p.walk? is.length c.state.pc = some c'.state.pc := by
  induction h with
  | nil c => rfl
  | cons hd _ ih => rw [List.length_cons, Program.walk?, hd.follow?_eq, Option.bind_some, ih]

theorem Finishes.walk?_eq_none {inbox : List α} {is : List Instruction} {c : Config α}
    (h : Finishes p inbox is c) : p.walk? (is.length + 1) 0 = none := by
  have hwalk : p.walk? is.length 0 = some c.state.pc := h.steps.walk?_eq
  rw [Program.walk?_add, hwalk, Option.bind_some, Program.walk?,
    Program.follow?_of_no_slot h.halted]
  rfl

theorem Steps.isSome_walk?_of_size_lt {inbox : List α} {is : List Instruction} {c : Config α}
    (h : Steps p (.start inbox) is c) (hlen : p.size < is.length) (n : Nat) :
    (p.walk? n 0).isSome := by
  have hwalk : p.walk? is.length 0 = some c.state.pc := h.walk?_eq
  exact Program.isSome_walk?_of_size_lt hlen (by rw [hwalk]; rfl) n

/-- A run that finishes has done each slot once at most. -/
theorem Finishes.length_le_size {inbox : List α} {is : List Instruction} {c : Config α}
    (h : Finishes p inbox is c) : is.length ≤ p.size := by
  by_contra hlt
  have hsome := h.steps.isSome_walk?_of_size_lt (Nat.not_le.mp hlt) (is.length + 1)
  rw [h.walk?_eq_none] at hsome
  cases hsome

/-! ## Labels that do not lead out -/

theorem Does.pc_inside {c c' : Config α} {i : Instruction} (hp : p.LabelsInside)
    (h : Does p c i c') : 0 ≤ c'.state.pc ∧ c'.state.pc ≤ p.size := by
  have hbounds := Program.slot?_bounds h.slot
  cases h with
  | inbox hs hi => constructor <;> simp only <;> omega
  | outbox hs ha => constructor <;> simp only <;> omega
  | jump hs hl => exact hp _ _ hl

theorem Steps.pc_inside {c c' : Config α} {is : List Instruction} (hp : p.LabelsInside)
    (h : Steps p c is c') (hc : 0 ≤ c.state.pc ∧ c.state.pc ≤ p.size) :
    0 ≤ c'.state.pc ∧ c'.state.pc ≤ p.size := by
  induction h with
  | nil c => exact hc
  | cons hd _ ih => exact ih (hd.pc_inside hp)

theorem Steps.pc_inside_start {inbox : List α} {is : List Instruction} {c : Config α}
    (hp : p.LabelsInside) (h : Steps p (.start inbox) is c) :
    0 ≤ c.state.pc ∧ c.state.pc ≤ p.size :=
  h.pc_inside hp ⟨Int.le_refl 0, by simp [Config.start, State.initial]⟩

theorem Finishes.pc_eq_size {inbox : List α} {is : List Instruction} {c : Config α}
    (hp : p.LabelsInside) (h : Finishes p inbox is c) : c.state.pc = p.size := by
  obtain ⟨hnonneg, hle⟩ := h.steps.pc_inside_start hp
  have hout := Program.slot?_eq_none_iff.mp h.halted
  omega

end Machine

end Mailroom
