import Mailroom.Program.Print
import Mailroom.Proofs.Program.WellFormed

/-!
# Printing and loading

Printing a well-formed program and loading what was printed gives the program back. The two meet at
the statements: each printed line says one (`exists_says_slotLines`), and all of them denote the
program.

Two things have to be seen. A printed line is one line and stays as it is when the source is cut and
stripped, because its parts are words and every line break is a blank. And the table comes back in
its own order although the labels are printed address by address, because the addresses in it never
go down (`filter_le_eq_append`).
-/

set_option autoImplicit false
set_option maxRecDepth 10000

namespace Mailroom

/-! ## Lines of instructions -/

namespace Instruction

theorem isLine_source {i : Instruction} (h : ∀ label, i = .jump label → Text.IsWord label) :
    Text.IsLine i.source := by
  cases i with
  | inbox => exact Text.IsWord.isLine (by decide)
  | outbox => exact Text.IsWord.isLine (by decide)
  | jump label =>
    rw [source_jump]
    exact Text.IsLine.append_space (by decide) (h label rfl).isLine

theorem says_source {i : Instruction} (h : ∀ label, i = .jump label → Text.IsWord label) :
    Says i.source (.instruction i) :=
  says_instruction_iff.mpr (parse_eq_ok_iff.mpr (words_source h))

end Instruction

/-! ## Tables of labels -/

theorem shiftLabels_zero (ls : List (String × Int)) : shiftLabels 0 ls = ls := by
  simp [shiftLabels]

theorem shiftLabels_shiftLabels (m n : Nat) (ls : List (String × Int)) :
    shiftLabels m (shiftLabels n ls) = shiftLabels (m + n) ls := by
  simp only [shiftLabels, List.map_map]
  refine List.map_congr_left fun l _ => ?_
  simp only [Function.comp_apply, Prod.mk.injEq, true_and]
  omega

theorem labelTable_cons_label (name : String) (ss : List Statement) :
    labelTable (.label name :: ss) = (name, 0) :: labelTable ss := by
  have h := labelTable_append [.label name] ss
  simpa [labelTable, Statement.name?, instructionCount, Statement.isInstruction,
    shiftLabels_zero] using h

theorem labelTable_cons_instruction (i : Instruction) (ss : List Statement) :
    labelTable (.instruction i :: ss) = shiftLabels 1 (labelTable ss) := by
  have h := labelTable_append [.instruction i] ss
  simpa [labelTable, Statement.name?, instructionCount, Statement.isInstruction] using h

theorem filter_le_eq_append {ls : List (String × Int)} (h : ls.Pairwise fun l m => l.2 ≤ m.2)
    (a : Int) :
    (ls.filter fun l => a ≤ l.2) =
      (ls.filter fun l => l.2 == a) ++ ls.filter fun l => a + 1 ≤ l.2 := by
  induction ls with
  | nil => rfl
  | cons l ls ih =>
    obtain ⟨hl, hls⟩ := List.pairwise_cons.mp h
    simp only [List.filter_cons, decide_eq_true_eq, beq_iff_eq]
    rcases Int.lt_trichotomy l.2 a with hlt | heq | hgt
    · rw [if_neg (by omega), if_neg (by omega), if_neg (by omega), ih hls]
    · rw [if_pos (by omega), if_pos heq, if_neg (by omega), ih hls, List.cons_append]
    · -- all that follows is behind the address, so nothing comes before `l`
      have hnone : ls.filter (fun m => m.2 == a) = [] := by
        rw [List.filter_eq_nil_iff]
        intro m hm heq
        have hle := hl m hm
        rw [beq_iff_eq] at heq
        omega
      rw [if_pos (by omega), if_neg (by omega), if_pos (by omega), ih hls, hnone]
      rfl

namespace Program

variable {p : Program}

/-! ## What a printed program says -/

def labelStatements (p : Program) (address : Nat) : List Statement :=
  (p.labels.filter fun l => l.2 == (address : Int)).map fun l => .label l.1

theorem says_labelLines (hp : p.WellFormed) (a : Nat) :
    List.Forall₂ Says (p.labelLines a) (p.labelStatements a) := by
  rw [labelLines, labelStatements, List.forall₂_map_left_iff, List.forall₂_map_right_iff,
    List.forall₂_same]
  intro l hl
  exact .label (hp.names l (List.mem_of_mem_filter hl)) rfl

theorem filterMap_slot?_labelStatements (p : Program) (a : Nat) :
    (p.labelStatements a).filterMap Statement.slot? = [] := by
  simp [labelStatements, List.filterMap_map, Statement.slot?]

theorem shiftLabels_labelTable_labelStatements (p : Program) (a : Nat) (ss : List Statement) :
    shiftLabels a (labelTable (p.labelStatements a ++ ss)) =
      (p.labels.filter fun l => l.2 == (a : Int)) ++ shiftLabels a (labelTable ss) := by
  unfold labelStatements
  induction p.labels with
  | nil => rfl
  | cons l ls ih =>
    obtain ⟨name, address⟩ := l
    rw [List.filter_cons]
    split
    · rename_i heq
      obtain rfl : address = (a : Int) := beq_iff_eq.mp heq
      rw [List.map_cons, List.cons_append, labelTable_cons_label, List.cons_append, ← ih]
      simp [shiftLabels]
    · exact ih

/-- The lines from an address on say the slots from there on, and declare the labels from there on
at addresses that start anew. -/
theorem exists_says_slotLines (hp : p.WellFormed) {slots : List Slot} (hslots : slots ⊆ p.slots)
    {a : Nat} (ha : a + slots.length = p.size) :
    ∃ ss, List.Forall₂ Says (p.slotLines a slots) ss ∧
      ss.filterMap Statement.slot? = slots ∧
      shiftLabels a (labelTable ss) = p.labels.filter fun l => (a : Int) ≤ l.2 := by
  -- along the slots, with the address going up
  induction slots generalizing a with
  | nil =>
    obtain rfl : a = p.size := ha
    refine ⟨_, says_labelLines hp p.size, filterMap_slot?_labelStatements p p.size, ?_⟩
    rw [← List.append_nil (p.labelStatements p.size), shiftLabels_labelTable_labelStatements]
    -- no label leads further than the end, which is here
    refine (List.append_nil _).trans (List.filter_congr fun l hl => ?_)
    have hle := (hp.inside l hl).2
    rw [Bool.eq_iff_iff, beq_iff_eq, decide_eq_true_eq]
    omega
  | cons slot slots ih =>
    obtain ⟨hslot, hrest⟩ := List.cons_subset.mp hslots
    obtain ⟨i, rfl, hword⟩ := hp.exists_instruction hslot
    have hnext : a + 1 + slots.length = p.size := by
      rw [← ha, List.length_cons]
      omega
    obtain ⟨ss, hsays, hfilled, htable⟩ := ih hrest hnext
    refine ⟨p.labelStatements a ++ .instruction i :: ss,
      List.rel_append (says_labelLines hp a) (.cons (Instruction.says_source hword) hsays), ?_, ?_⟩
    · rw [List.filterMap_append, filterMap_slot?_labelStatements, List.nil_append,
        List.filterMap_cons, hfilled]
      rfl
    · rw [shiftLabels_labelTable_labelStatements, labelTable_cons_instruction,
        shiftLabels_shiftLabels, htable]
      exact (filter_le_eq_append hp.ordered a).symm

theorem isLine_of_mem_slotLines (hp : p.WellFormed) {slots : List Slot} (hslots : slots ⊆ p.slots)
    {a : Nat} {line : String} (h : line ∈ p.slotLines a slots) : Text.IsLine line := by
  have hlabels : ∀ b, line ∈ p.labelLines b → Text.IsLine line := by
    intro b hb
    obtain ⟨l, hl, rfl⟩ := List.mem_map.mp hb
    exact (hp.names l (List.mem_of_mem_filter hl)).isWord_heading.isLine
  induction slots generalizing a with
  | nil => exact hlabels a h
  | cons slot slots ih =>
    obtain ⟨hslot, hrest⟩ := List.cons_subset.mp hslots
    obtain ⟨i, rfl, hword⟩ := hp.exists_instruction hslot
    rcases List.mem_append.mp h with hline | hline
    · exact hlabels a hline
    · rcases List.mem_cons.mp hline with rfl | hline
      · exact Instruction.isLine_source hword
      · exact ih hrest hline

theorem filledLines_print (hp : p.WellFormed) {header : String} (hh : Text.IsLine header) :
    Text.filledLines (print header p) = header :: p.bodyLines := by
  apply Text.filledLines_joinLines
  intro l hl
  rcases List.mem_cons.mp hl with rfl | hl
  · exact hh
  · exact isLine_of_mem_slotLines hp (List.Subset.refl _) hl

theorem exists_says_bodyLines (hp : p.WellFormed) :
    ∃ ss, List.Forall₂ Says p.bodyLines ss ∧ ofStatements ss = p := by
  obtain ⟨ss, hsays, hslots, htable⟩ :=
    exists_says_slotLines hp (List.Subset.refl p.slots) (Nat.zero_add p.size)
  refine ⟨ss, hsays, ?_⟩
  have hall : p.labels.filter (fun l => ((0 : Nat) : Int) ≤ l.2) = p.labels := by
    rw [List.filter_eq_self]
    intro l hl
    simpa using (hp.inside l hl).1
  rw [shiftLabels_zero, hall] at htable
  rw [ofStatements, hslots, htable]

/-- **Printing and loading are inverse.** A well-formed program, printed under a header that is a
line by itself, is what its source loads to, with the same slots and the same table in the same
order. Every program that is loaded is well-formed, and its header is such a line. -/
theorem load_inverts_print (header : String) (p : Program) :
    (Text.IsLine header → p.WellFormed → load header (print header p) = .ok p) ∧
    ∀ source, load header source = .ok p → Text.IsLine header ∧ p.WellFormed := by
  refine ⟨fun hh hp => ?_, fun source h => ⟨isLine_header_of_load h, wellFormed_of_load h⟩⟩
  obtain ⟨ss, hsays, hdenotes⟩ := exists_says_bodyLines hp
  refine load_eq_ok_iff.mpr ⟨p.bodyLines, ss, filledLines_print hp hh, hsays, ?_, hdenotes.symm⟩
  rw [← map_fst_labelTable]
  have htable : labelTable ss = p.labels := congrArg Program.labels hdenotes
  rw [htable]
  exact hp.distinct

/-- Two labels at one address, a label past the last instruction, and a jump to what looks like the
declaration of a label. -/
theorem load_inverts_print_at_shared_address :
    ∃ p : Program, p.labels = [("a", 0), ("b", 0), ("end", 2)] ∧
      print "HRM" p = "HRM\na:\nb:\nJUMP a:\nOUTBOX\nend:\n" ∧
      load "HRM" (print "HRM" p) = .ok p := by
  refine ⟨⟨[.instruction (.jump "a:"), .instruction .outbox], [("a", 0), ("b", 0), ("end", 2)]⟩,
    rfl, rfl, (load_inverts_print "HRM" _).1 (by decide) ⟨?_, ?_, ?_, ?_, ?_, ?_⟩⟩
  · simp
  · intro label h
    obtain rfl : label = "a:" := by simpa using h
    decide
  · decide
  · decide
  · decide
  · decide

end Program

end Mailroom
