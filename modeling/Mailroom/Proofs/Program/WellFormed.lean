import Mailroom.Proofs.Machine.Control
import Mailroom.Proofs.Program.Grammar

/-!
# Programs that come from source

A program may hold anything. One that was loaded holds instructions only, its jumps name words, and
its labels are names that lead, in the order of the table, from the start of the program towards its
end. `WellFormed` collects this and `wellFormed_of_load` is where it comes from; nothing that is
proved of loaded programs goes back to the loader for more, but for the names that a source declares
(`map_fst_labels_of_load`).

The order of the addresses is the one fact that is not seen on a single line. It holds because the
address of a label counts what is before it, and the later label has more before it.
-/

set_option autoImplicit false

namespace Mailroom

/-! ## The label table -/

theorem mem_labelTable_bounds {ss : List Statement} {l : String × Int} (h : l ∈ labelTable ss) :
    0 ≤ l.2 ∧ l.2 ≤ instructionCount ss := by
  obtain ⟨x, -, hx⟩ := List.mem_filterMap.mp h
  obtain ⟨name, -, rfl⟩ := Option.map_eq_some_iff.mp hx
  have hle : instructionCount (ss.take x.2) ≤ instructionCount ss :=
    (List.take_sublist _ _).countP_le
  simp only
  omega

theorem pairwise_labelTable (ss : List Statement) :
    (labelTable ss).Pairwise fun l m => l.2 ≤ m.2 := by
  have hindex : ss.zipIdx.Pairwise fun x y => x.2 < y.2 := by
    rw [← List.pairwise_map, List.zipIdx_map_snd]
    exact List.pairwise_lt_range'
  rw [labelTable, List.pairwise_filterMap]
  refine hindex.imp ?_
  intro x y hxy l hl m hm
  obtain ⟨_, -, rfl⟩ := Option.map_eq_some_iff.mp hl
  obtain ⟨_, -, rfl⟩ := Option.map_eq_some_iff.mp hm
  -- what is before the first label is before the second too
  have hprefix : ss.take x.2 <+: ss.take y.2 := List.take_prefix_take_left (Nat.le_of_lt hxy)
  have hle : instructionCount (ss.take x.2) ≤ instructionCount (ss.take y.2) :=
    hprefix.sublist.countP_le
  simp only
  omega

/-! ## What lines say, all together -/

theorem exists_says_of_mem {body : List String} {ss : List Statement} {s : Statement}
    (h : List.Forall₂ Says body ss) (hs : s ∈ ss) : ∃ line, Says line s := by
  induction h with
  | nil => simp at hs
  | cons hsays _ ih =>
    rcases List.mem_cons.mp hs with rfl | hs
    · exact ⟨_, hsays⟩
    · exact ih hs

theorem heading?_of_says {line : String} {s : Statement} (h : Says line s) :
    Text.heading? line = s.name? := by
  cases s with
  | label name => exact says_label_iff.mp h
  | instruction i =>
    cases hh : Text.heading? line with
    | none => rfl
    | some name => exact absurd h (not_says_both (says_label_iff.mpr hh))

theorem filterMap_heading?_of_says {body : List String} {ss : List Statement}
    (h : List.Forall₂ Says body ss) : body.filterMap Text.heading? = declaredNames ss := by
  induction h with
  | nil => rfl
  | cons hsays _ ih =>
    rw [List.filterMap_cons, heading?_of_says hsays, ih, declaredNames, declaredNames,
      List.filterMap_cons]

namespace Program

variable {p : Program} {header source : String}

/-- The names that a source declares, in order. The first line is the header and declares none. -/
def declarations (source : String) : List String :=
  (Text.filledLines source).tail.filterMap Text.heading?

theorem map_fst_labels_of_load (h : load header source = .ok p) :
    p.labels.map Prod.fst = declarations source := by
  obtain ⟨body, ss, hbody, hss, -, rfl⟩ := load_eq_ok_iff.mp h
  rw [declarations, hbody, List.tail_cons, filterMap_heading?_of_says hss]
  exact map_fst_labelTable ss

theorem isLine_header_of_load (h : load header source = .ok p) : Text.IsLine header := by
  obtain ⟨body, ss, hbody, -⟩ := load_eq_ok_iff.mp h
  apply Text.isLine_of_mem_filledLines
  rw [hbody]
  exact List.mem_cons_self

theorem size_lt_of_load (h : load header source = .ok p) : p.size < source.length := by
  obtain ⟨body, ss, hbody, hss, -, rfl⟩ := load_eq_ok_iff.mp h
  have hlines := Text.length_filledLines_le source
  have hcount : instructionCount ss ≤ ss.length := List.countP_le_length
  rw [hbody, List.length_cons, hss.length_eq] at hlines
  rw [size_ofStatements]
  omega

/-! ## Well-formed programs -/

/-- A program that can be written down as source. -/
structure WellFormed (p : Program) : Prop where
  instructions : ∀ slot ∈ p.slots, ∃ i, slot = .instruction i
  operands : ∀ label, .instruction (.jump label) ∈ p.slots → Text.IsWord label
  names : ∀ l ∈ p.labels, Text.IsName l.1
  distinct : (p.labels.map Prod.fst).Nodup
  inside : ∀ l ∈ p.labels, 0 ≤ l.2 ∧ l.2 ≤ p.size
  ordered : p.labels.Pairwise fun l m => l.2 ≤ m.2

theorem mem_slots_ofStatements {ss : List Statement} {slot : Slot}
    (h : slot ∈ (ofStatements ss).slots) : ∃ i, .instruction i ∈ ss ∧ slot = .instruction i := by
  obtain ⟨s, hs, hslot⟩ := List.mem_filterMap.mp h
  cases s with
  | label name => cases hslot
  | instruction i =>
    cases hslot
    exact ⟨i, hs, rfl⟩

theorem mem_of_mem_declaredNames {ss : List Statement} {name : String}
    (h : name ∈ declaredNames ss) : .label name ∈ ss := by
  obtain ⟨s, hs, hname⟩ := List.mem_filterMap.mp h
  cases s with
  | label name' =>
    cases hname
    exact hs
  | instruction i => cases hname

theorem wellFormed_of_load (h : load header source = .ok p) : p.WellFormed := by
  obtain ⟨body, ss, -, hss, hnd, rfl⟩ := load_eq_ok_iff.mp h
  refine ⟨?_, ?_, ?_, ?_, ?_, pairwise_labelTable ss⟩
  · intro slot hslot
    obtain ⟨i, -, rfl⟩ := mem_slots_ofStatements hslot
    exact ⟨i, rfl⟩
  · intro label hslot
    obtain ⟨i, hi, heq⟩ := mem_slots_ofStatements hslot
    cases heq
    -- every instruction was said by some line, and the words of a line are not empty
    obtain ⟨line, hsays⟩ := exists_says_of_mem hss hi
    cases hsays with
    | jump hw => exact Instruction.isWord_label_of_words_eq hw label rfl
  · intro l hl
    have hname : l.1 ∈ declaredNames ss := by
      rw [← map_fst_labelTable]
      exact List.mem_map_of_mem hl
    obtain ⟨line, hsays⟩ := exists_says_of_mem hss (mem_of_mem_declaredNames hname)
    cases hsays with
    | label hn _ => exact hn
  · exact (map_fst_labelTable ss).symm ▸ hnd
  · intro l hl
    rw [size_ofStatements]
    exact mem_labelTable_bounds hl

theorem WellFormed.exists_instruction (h : p.WellFormed) {slot : Slot} (hslot : slot ∈ p.slots) :
    ∃ i, slot = .instruction i ∧ ∀ label, i = .jump label → Text.IsWord label := by
  obtain ⟨i, rfl⟩ := h.instructions slot hslot
  refine ⟨i, rfl, ?_⟩
  rintro label rfl
  exact h.operands label hslot

theorem WellFormed.labelsInside (h : p.WellFormed) : p.LabelsInside := by
  intro label address haddress
  obtain ⟨front, back, heq, -⟩ := List.lookup_eq_some_iff.mp haddress
  exact h.inside (label, address) (by simp [heq])

theorem labelsInside_of_load (h : load header source = .ok p) : p.LabelsInside :=
  (wellFormed_of_load h).labelsInside

end Program

end Mailroom
