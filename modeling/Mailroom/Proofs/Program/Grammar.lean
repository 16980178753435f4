import Mailroom.Program.Load
import Mailroom.Proofs.Instruction
import Mailroom.Proofs.Text.Numbered
import Mathlib.Data.List.Forall2
import Mathlib.Data.List.Nodup

/-!
# The grammar of source

`load` goes through the lines once and keeps a program that grows. Here the same is said of the
source as a whole. A line says a statement or none (`Says`), and a list of statements denotes a
program (`Program.ofStatements`): its instructions in order, and for each declared name the number
of instructions before it. `load_eq_ok_iff` is the agreement of the two.

The denotation is of the list as a whole and not of one statement after the other. What makes the
loop agree with it is `ofStatements_append`, and the loop only ever appends one statement.
-/

set_option autoImplicit false

namespace Mailroom

/-! ## What a line says -/

inductive Statement where
  | label (name : String)
  | instruction (i : Instruction)
  deriving DecidableEq, Repr

namespace Statement

def name? : Statement → Option String
  | .label name => some name
  | .instruction _ => none

def slot? : Statement → Option Slot
  | .label _ => none
  | .instruction i => some (.instruction i)

def isInstruction : Statement → Bool
  | .label _ => false
  | .instruction _ => true

end Statement

def declaredNames (ss : List Statement) : List String := ss.filterMap Statement.name?

theorem declaredNames_append (ss ts : List Statement) :
    declaredNames (ss ++ ts) = declaredNames ss ++ declaredNames ts := List.filterMap_append

theorem nodup_declaredNames_snoc {ss : List Statement} {s : Statement} :
    (declaredNames (ss ++ [s])).Nodup ↔
      (declaredNames ss).Nodup ∧ ∀ name, s = .label name → name ∉ declaredNames ss := by
  rw [declaredNames_append]
  cases s with
  | label name =>
    have hone : declaredNames [.label name] = [name] := rfl
    rw [hone, ← List.concat_eq_append, List.nodup_concat]
    simp [and_comm]
  | instruction i =>
    have hnone : declaredNames [.instruction i] = [] := rfl
    simp [hnone]

/-- A declaration is a name with a colon and nothing else. An instruction is told by its words. -/
inductive Says : String → Statement → Prop where
  | label {line name : String} (hn : Text.IsName name) (hl : line = name ++ ":") :
      Says line (.label name)
  | inbox {line : String} (hw : Text.words line = ["INBOX"]) : Says line (.instruction .inbox)
  | outbox {line : String} (hw : Text.words line = ["OUTBOX"]) : Says line (.instruction .outbox)
  | jump {line label : String} (hw : Text.words line = ["JUMP", label]) :
      Says line (.instruction (.jump label))

theorem says_label_iff {line name : String} :
    Says line (.label name) ↔ Text.heading? line = some name := by
  rw [Text.heading?_eq_some_iff]
  constructor
  · intro h
    cases h with
    | label hn hl => exact ⟨hn, hl⟩
  · rintro ⟨hn, hl⟩
    exact .label hn hl

theorem says_instruction_iff {line : String} {i : Instruction} :
    Says line (.instruction i) ↔ Instruction.parse line = .ok i := by
  rw [Instruction.parse_eq_ok_iff]
  constructor
  · intro h
    cases h with
    | inbox hw => exact hw
    | outbox hw => exact hw
    | jump hw => exact hw
  · intro hw
    cases i with
    | inbox => exact .inbox hw
    | outbox => exact .outbox hw
    | jump label => exact .jump hw

/-- No declaration is an instruction: it is one word, and that word ends in a colon. -/
theorem not_says_both {line name : String} {i : Instruction} (hl : Says line (.label name)) :
    ¬ Says line (.instruction i) := by
  intro hi
  cases hl with
  | label hn hl =>
    have hwords : Text.words line = [line] := by rw [hl, hn.isWord_heading.words_eq]
    have hcolon : ':' ∈ line.toList := by simp [hl]
    cases hi with
    | inbox hw =>
      rw [hwords, List.singleton_inj] at hw
      rw [hw] at hcolon
      simp at hcolon
    | outbox hw =>
      rw [hwords, List.singleton_inj] at hw
      rw [hw] at hcolon
      simp at hcolon
    | jump hw => simp [hwords] at hw

theorem Says.unique {line : String} {s t : Statement} (hs : Says line s) (ht : Says line t) :
    s = t := by
  cases s with
  | label name =>
    cases t with
    | label name' =>
      have heq := (says_label_iff.mp hs).symm.trans (says_label_iff.mp ht)
      rw [Option.some.inj heq]
    | instruction i => exact absurd ht (not_says_both hs)
  | instruction i =>
    cases t with
    | label name => exact absurd hs (not_says_both ht)
    | instruction j =>
      have heq := (says_instruction_iff.mp hs).symm.trans (says_instruction_iff.mp ht)
      rw [Except.ok.inj heq]

/-! ## What statements denote -/

def instructionCount (ss : List Statement) : Nat := ss.countP Statement.isInstruction

/-- Each declared name, in the order of declaration, with the number of instructions before its
declaration. -/
def labelTable (ss : List Statement) : List (String × Int) :=
  ss.zipIdx.filterMap fun x =>
    x.1.name?.map fun name => (name, (instructionCount (ss.take x.2) : Int))

/-- The program that statements denote. -/
def Program.ofStatements (ss : List Statement) : Program where
  slots := ss.filterMap Statement.slot?
  labels := labelTable ss

def shiftLabels (n : Nat) (labels : List (String × Int)) : List (String × Int) :=
  labels.map fun l => (l.1, l.2 + n)

theorem lookup_shiftLabels (n : Nat) (labels : List (String × Int)) (name : String) :
    (shiftLabels n labels).lookup name =
      (labels.lookup name).map fun address => address + (n : Int) := by
  induction labels with
  | nil => rfl
  | cons l labels ih =>
    obtain ⟨key, address⟩ := l
    simp only [shiftLabels, List.map_cons, List.lookup_cons]
    cases name == key with
    | true => rfl
    | false => exact ih

theorem map_fst_labelTable (ss : List Statement) :
    (labelTable ss).map Prod.fst = declaredNames ss := by
  have hnames : declaredNames ss = ss.zipIdx.filterMap fun x => x.1.name? := by
    conv_lhs => rw [← List.zipIdx_map_fst 0 ss]
    rw [declaredNames, List.filterMap_map]
    rfl
  rw [labelTable, List.map_filterMap, hnames]
  congr 1
  funext x
  cases x.1.name? <;> rfl

theorem labelTable_append (ss ts : List Statement) :
    labelTable (ss ++ ts) = labelTable ss ++ shiftLabels (instructionCount ss) (labelTable ts) := by
  unfold labelTable shiftLabels
  rw [List.zipIdx_append, List.filterMap_append, List.map_filterMap]
  congr 1
  · -- before the seam nothing is seen of what comes after it
    refine List.filterMap_congr fun x hx => ?_
    have hlt : x.2 < ss.length := by simpa using (List.mem_zipIdx hx).2.1
    rw [List.take_append_of_le_length (Nat.le_of_lt hlt)]
  · have hshift : ts.zipIdx (0 + ss.length) = ts.zipIdx.map fun x => (x.1, x.2 + ss.length) := by
      rw [List.zipIdx_eq_map_add, Nat.zero_add]
      simp [Nat.add_comm]
    rw [hshift, List.filterMap_map]
    refine List.filterMap_congr fun x _ => ?_
    have hcount : instructionCount ((ss ++ ts).take (x.2 + ss.length)) =
        instructionCount (ts.take x.2) + instructionCount ss := by
      rw [Nat.add_comm, List.take_length_add_append]
      simp [instructionCount, Nat.add_comm]
    simp only [Function.comp_apply, hcount]
    cases x.1.name? <;> simp

namespace Program

/-- One program behind another. The labels of the second lead behind the slots of the first. -/
def append (p q : Program) : Program where
  slots := p.slots ++ q.slots
  labels := p.labels ++ shiftLabels p.size q.labels

theorem size_ofStatements (ss : List Statement) :
    (ofStatements ss).size = instructionCount ss := by
  unfold size ofStatements instructionCount
  induction ss with
  | nil => rfl
  | cons s ss ih =>
    cases s with
    | label name =>
      simpa [List.filterMap_cons, Statement.slot?, Statement.isInstruction] using ih
    | instruction i =>
      simpa [List.filterMap_cons, List.countP_cons, Statement.slot?, Statement.isInstruction]
        using ih

theorem ofStatements_append (ss ts : List Statement) :
    ofStatements (ss ++ ts) = (ofStatements ss).append (ofStatements ts) := by
  simp only [append, size_ofStatements]
  simp only [ofStatements, List.filterMap_append, labelTable_append]

theorem ofStatements_snoc_label (ss : List Statement) (name : String) :
    ofStatements (ss ++ [.label name]) = (ofStatements ss).addLabel name := by
  rw [ofStatements_append]
  simp [append, addLabel, ofStatements, labelTable, shiftLabels, Statement.slot?, Statement.name?,
    instructionCount]

theorem ofStatements_snoc_instruction (ss : List Statement) (i : Instruction) :
    ofStatements (ss ++ [.instruction i]) = (ofStatements ss).addInstruction i := by
  rw [ofStatements_append]
  simp [append, addInstruction, ofStatements, labelTable, shiftLabels, Statement.slot?,
    Statement.name?]

theorem declares_iff {p : Program} {name : String} :
    p.declares name = true ↔ name ∈ p.labels.map Prod.fst := by
  simp only [declares, address?, List.lookup_isSome_iff, beq_iff_eq, List.mem_map]
  exact ⟨fun ⟨l, hl, heq⟩ => ⟨l, hl, heq.symm⟩, fun ⟨l, hl, heq⟩ => ⟨l, hl, heq.symm⟩⟩

theorem declares_ofStatements {ss : List Statement} {name : String} :
    (ofStatements ss).declares name = true ↔ name ∈ declaredNames ss := by
  rw [declares_iff, ← map_fst_labelTable]
  rfl

theorem address?_append {p q : Program} (name : String) :
    (p.append q).address? name =
      (p.address? name).or ((q.address? name).map fun address => address + p.size) := by
  simp only [address?, append, List.lookup_append, lookup_shiftLabels]

theorem address?_eq_none_iff {p : Program} {name : String} :
    p.address? name = none ↔ name ∉ p.labels.map Prod.fst := by
  rw [← declares_iff, declares, Bool.not_eq_true, Option.isSome_eq_false_iff,
    Option.isNone_iff_eq_none]

theorem address?_ofStatements {before after : List Statement} {name : String}
    (hnd : (declaredNames (before ++ .label name :: after)).Nodup) :
    (ofStatements (before ++ .label name :: after)).address? name =
      some (instructionCount before : Int) := by
  rw [List.append_cons, declaredNames_append] at hnd
  have hnew := (nodup_declaredNames_snoc.mp (List.nodup_append.mp hnd).1).2 name rfl
  have hbefore : (ofStatements before).address? name = none := by
    rw [address?_eq_none_iff]
    exact fun hmem => hnew ((map_fst_labelTable before) ▸ hmem)
  have hone : (ofStatements [.label name]).address? name = some 0 := by
    simp [address?, ofStatements, labelTable, Statement.name?, instructionCount]
  rw [List.append_cons, List.append_assoc, ofStatements_append, address?_append, hbefore,
    ofStatements_append, address?_append, hone, size_ofStatements]
  simp

/-! ## The loader -/

theorem addLine_eq_ok_iff {ss : List Statement} {l : Text.SourceLine} {q : Program} :
    addLine (ofStatements ss) l = .ok q ↔
      ∃ s, Says l.text s ∧ (∀ name, s = .label name → name ∉ declaredNames ss) ∧
        q = ofStatements (ss ++ [s]) := by
  unfold addLine
  cases hh : Text.heading? l.text with
  | some name =>
    have hsays : Says l.text (.label name) := says_label_iff.mpr hh
    by_cases hdup : name ∈ declaredNames ss
    · simp only [declares_ofStatements.mpr hdup, if_true, reduceCtorEq, false_iff]
      rintro ⟨s, hs, hnew, -⟩
      exact hnew name (hs.unique hsays) hdup
    · have hnot : (ofStatements ss).declares name = false := by
        rw [← Bool.not_eq_true, declares_ofStatements]
        exact hdup
      simp only [hnot, Bool.false_eq_true, if_false, Except.ok.injEq]
      constructor
      · rintro rfl
        refine ⟨.label name, hsays, ?_, (ofStatements_snoc_label ss name).symm⟩
        rintro _ ⟨rfl⟩
        exact hdup
      · rintro ⟨s, hs, -, rfl⟩
        rw [hs.unique hsays, ofStatements_snoc_label]
  | none =>
    -- a line is read as an instruction only if it is no heading
    have hno : ∀ name, ¬ Says l.text (.label name) := by
      intro name hs
      rw [says_label_iff.mp hs] at hh
      cases hh
    cases hp : Instruction.parse l.text with
    | ok i =>
      have hsays : Says l.text (.instruction i) := says_instruction_iff.mpr hp
      simp only [Except.ok.injEq]
      constructor
      · rintro rfl
        exact ⟨.instruction i, hsays, by simp, (ofStatements_snoc_instruction ss i).symm⟩
      · rintro ⟨s, hs, -, rfl⟩
        rw [hs.unique hsays, ofStatements_snoc_instruction]
    | error token =>
      simp only [reduceCtorEq, false_iff]
      rintro ⟨s, hs, -, -⟩
      cases s with
      | label name => exact hno name hs
      | instruction i =>
        rw [says_instruction_iff.mp hs] at hp
        cases hp

/-- The loop over the lines, from any statements that have been taken already. -/
theorem addLines_eq_ok_iff {ss : List Statement} {ls : List Text.SourceLine} {q : Program}
    (hss : (declaredNames ss).Nodup) :
    addLines (ofStatements ss) ls = .ok q ↔
      ∃ ts, List.Forall₂ Says (ls.map Text.SourceLine.text) ts ∧
        (declaredNames (ss ++ ts)).Nodup ∧ q = ofStatements (ss ++ ts) := by
  unfold addLines
  induction ls generalizing ss with
  | nil =>
    simp only [List.foldlM_nil, pure, Except.pure, Except.ok.injEq, List.map_nil,
      List.forall₂_nil_left_iff]
    constructor
    · rintro rfl
      exact ⟨[], rfl, by simpa using hss, by simp⟩
    · rintro ⟨ts, rfl, -, rfl⟩
      simp
  | cons l ls ih =>
    rw [List.foldlM_cons, List.map_cons]
    constructor
    · intro h
      cases hl : addLine (ofStatements ss) l with
      | error e => simp [hl, bind, Except.bind] at h
      | ok p =>
        simp only [hl, bind, Except.bind] at h
        obtain ⟨s, hs, hnew, rfl⟩ := addLine_eq_ok_iff.mp hl
        obtain ⟨ts, hts, hnd, rfl⟩ := (ih (nodup_declaredNames_snoc.mpr ⟨hss, hnew⟩)).mp h
        exact ⟨s :: ts, .cons hs hts, by simpa using hnd, by simp⟩
    · rintro ⟨ts, hts, hnd, hq⟩
      cases hts with
      | @cons _ s _ ts hs hts =>
        -- the names declared so far are a part of those declared in the end, hence distinct
        rw [List.append_cons] at hnd hq
        have hsnoc : (declaredNames (ss ++ [s])).Nodup := by
          rw [declaredNames_append] at hnd
          exact (List.nodup_append.mp hnd).1
        rw [addLine_eq_ok_iff.mpr ⟨s, hs, (nodup_declaredNames_snoc.mp hsnoc).2, rfl⟩]
        exact (ih hsnoc).mpr ⟨ts, hts, hnd, hq⟩

/-- **The loader and the grammar agree.** -/
theorem load_eq_ok_iff {header source : String} {p : Program} :
    load header source = .ok p ↔
      ∃ body ss, Text.filledLines source = header :: body ∧ List.Forall₂ Says body ss ∧
        (declaredNames ss).Nodup ∧ p = ofStatements ss := by
  have hempty : empty = ofStatements [] := rfl
  rw [load, ← Text.map_text_sourceLines]
  cases Text.sourceLines source with
  | nil => simp [loadLines]
  | cons first rest =>
    simp only [loadLines, List.map_cons, List.cons.injEq]
    by_cases hh : first.text = header
    · rw [if_pos hh, hempty, addLines_eq_ok_iff (by simp [declaredNames])]
      constructor
      · rintro ⟨ts, hts, hnd, rfl⟩
        exact ⟨_, ts, ⟨hh, rfl⟩, hts, hnd, rfl⟩
      · rintro ⟨body, ts, ⟨-, rfl⟩, hts, hnd, rfl⟩
        exact ⟨ts, hts, hnd, rfl⟩
    · rw [if_neg hh]
      simp [hh]

theorem unique_of_forall₂_says {body : List String} {ss ts : List Statement}
    (hs : List.Forall₂ Says body ss) (ht : List.Forall₂ Says body ts) : ss = ts := by
  induction hs generalizing ts with
  | nil =>
    cases ht
    rfl
  | cons hs _ ih =>
    cases ht with
    | cons ht hts => rw [hs.unique ht, ih hts]

/-- **The loader accepts its grammar and nothing else.** A source is loaded when its first line is
the header, each line after it says something and no name is declared twice. The program then has
the instructions in order and the names in order, and each name stands for the number of
instructions before its declaration. What a line says is never both a declaration and an
instruction. -/
theorem load_iff_grammar (header source : String) :
    ((∃ p, load header source = .ok p) ↔
      ∃ body ss, Text.filledLines source = header :: body ∧ List.Forall₂ Says body ss ∧
        (declaredNames ss).Nodup) ∧
    (∀ p body ss, load header source = .ok p → Text.filledLines source = header :: body →
      List.Forall₂ Says body ss →
        p.slots = ss.filterMap Statement.slot? ∧ p.labels.map Prod.fst = declaredNames ss ∧
        ∀ before name after, ss = before ++ .label name :: after →
          p.address? name = some (instructionCount before : Int)) ∧
    ∀ line name i, ¬ (Says line (.label name) ∧ Says line (.instruction i)) := by
  refine ⟨⟨?_, ?_⟩, ?_, fun line name i h => not_says_both h.1 h.2⟩
  · rintro ⟨p, hp⟩
    obtain ⟨body, ss, hbody, hss, hnd, -⟩ := load_eq_ok_iff.mp hp
    exact ⟨body, ss, hbody, hss, hnd⟩
  · rintro ⟨body, ss, hbody, hss, hnd⟩
    exact ⟨_, load_eq_ok_iff.mpr ⟨body, ss, hbody, hss, hnd, rfl⟩⟩
  · intro p body ss hp hbody hss
    obtain ⟨body', ss', hbody', hss', hnd, rfl⟩ := load_eq_ok_iff.mp hp
    obtain rfl : body = body' := List.tail_eq_of_cons_eq (hbody.symm.trans hbody')
    obtain rfl := unique_of_forall₂_says hss hss'
    refine ⟨rfl, map_fst_labelTable ss, ?_⟩
    rintro before name after rfl
    exact address?_ofStatements hnd

end Program

end Mailroom
