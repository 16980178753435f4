import Mailroom.Instruction
import Mailroom.Proofs.Text.Words

/-!
# Instructions and their source form

The reader of a line and the source form of an instruction meet at the instruction's spelling, the
words that it is made of. The reader takes a spelling off the front of a line's words
(`ofWords?_eq_some_iff`), and a source form has its spelling for words, unless the label of a jump
is not one word. Such a jump can be written, and what is written may even be a line for another
jump, but no line is read as it.
-/

set_option autoImplicit false

namespace Mailroom.Instruction

variable {line token : String} {i : Instruction}

def spelling : Instruction → List String
  | .inbox => ["INBOX"]
  | .outbox => ["OUTBOX"]
  | .jump label => ["JUMP", label]

/-! ## Reading words -/

theorem ofWords?_eq_some_iff {ws rest : List String} :
    ofWords? ws = some (i, rest) ↔ ws = i.spelling ++ rest := by
  constructor
  · intro h
    unfold ofWords? at h
    split at h
    · cases h
      rfl
    · cases h
      rfl
    · cases h
      rfl
    · cases h
  · rintro rfl
    cases i with
    | inbox => rfl
    | outbox => rfl
    | jump label => rfl

theorem ofWords?_eq_none_iff {ws : List String} :
    ofWords? ws = none ↔ ∀ (i : Instruction) rest, ws ≠ i.spelling ++ rest := by
  simp only [Option.eq_none_iff_forall_ne_some, Prod.forall, ne_eq, ofWords?_eq_some_iff]

theorem parse_eq_ok_iff : parse line = .ok i ↔ Text.words line = i.spelling := by
  have hall : Text.words line = i.spelling ↔ ofWords? (Text.words line) = some (i, []) := by
    rw [ofWords?_eq_some_iff, List.append_nil]
  rw [hall]
  unfold parse
  split
  · rename_i j hj
    simp [hj]
  · rename_i j extra rest hj
    simp [hj]
  · rename_i hnone
    simp [hnone]

/-- The token of a line that is not expected there. -/
inductive Unexpected (line : String) : String → Prop where
  /-- The first word behind a complete instruction. -/
  | extra {token : String} {i : Instruction} {rest : List String}
      (hw : Text.words line = i.spelling ++ token :: rest) : Unexpected line token
  /-- All of a line that does not start with a complete instruction. -/
  | whole (hw : ∀ (i : Instruction) (rest : List String), Text.words line ≠ i.spelling ++ rest) :
      Unexpected line line

theorem parse_eq_error_iff : parse line = .error token ↔ Unexpected line token := by
  constructor
  · intro h
    unfold parse at h
    split at h
    · cases h
    · rename_i j extra rest hj
      cases h
      exact .extra (ofWords?_eq_some_iff.mp hj)
    · rename_i hnone
      cases h
      exact .whole (ofWords?_eq_none_iff.mp hnone)
  · intro h
    unfold parse
    cases h with
    | extra hw => rw [ofWords?_eq_some_iff.mpr hw]
    | whole hw => rw [ofWords?_eq_none_iff.mpr hw]

/-! ## Source forms -/

theorem source_jump (label : String) : (jump label).source = "JUMP" ++ " " ++ label := rfl

theorem words_source (h : ∀ label, i = .jump label → Text.IsWord label) :
    Text.words i.source = i.spelling := by
  cases i with
  | inbox => exact Text.IsWord.words_eq (by decide)
  | outbox => exact Text.IsWord.words_eq (by decide)
  | jump label =>
    have hjump : Text.words "JUMP" = ["JUMP"] := Text.IsWord.words_eq (by decide)
    rw [source_jump, Text.words_append_space, hjump, (h label rfl).words_eq]
    rfl

theorem isWord_label_of_words_eq (h : Text.words line = i.spelling) :
    ∀ label, i = .jump label → Text.IsWord label := by
  rintro label rfl
  have hmem : label ∈ Text.words line := by
    rw [h]
    exact List.mem_cons_of_mem "JUMP" List.mem_cons_self
  exact Text.isWord_of_mem_words hmem

/-- A line in which an instruction is written: it has the words of the source form, and the label of
a jump is one word. -/
structure Written (i : Instruction) (line : String) : Prop where
  words_eq : Text.words line = Text.words i.source
  isWord_label : ∀ label, i = .jump label → Text.IsWord label

theorem written_iff : i.Written line ↔ Text.words line = i.spelling := by
  constructor
  · intro h
    rw [h.words_eq, words_source h.isWord_label]
  · intro h
    have hlabel := isWord_label_of_words_eq h
    exact ⟨by rw [h, words_source hlabel], hlabel⟩

/-- **A line is read as the instruction that is written in it.** It is read as an instruction when
it has the words of the source form and the label of a jump is one word, and as no other. Every
other line is refused: for the first word behind a complete instruction when it starts with one, and
as a whole when it does not. The words are what stands between the blanks of the line, whatever
blanks these are. -/
theorem parse_recognises_source (line : String) :
    (∀ i, parse line = .ok i ↔ i.Written line) ∧
    (∀ token, parse line = .error token ↔ Unexpected line token) ∧
    ((¬ ∃ i : Instruction, i.Written line) ↔ ∃ token, Unexpected line token) ∧
    ∀ ws, Text.words line = ws ↔ Text.Spaced line.toList (ws.map String.toList) := by
  have hok : ∀ i, parse line = .ok i ↔ i.Written line := fun i =>
    parse_eq_ok_iff.trans written_iff.symm
  refine ⟨hok, fun token => parse_eq_error_iff, ?_, fun ws => Text.words_eq_iff⟩
  simp only [← hok, ← parse_eq_error_iff]
  cases parse line with
  | ok i => simp
  | error token => simp

/-- A label that is not one word is lost in writing: the line is read as another jump, or refused
for what is left of the label, or refused as a whole. -/
example : parse (jump " loop").source = .ok (jump "loop") ∧
    parse (jump "lo op").source = .error "op" ∧ parse (jump "").source = .error "JUMP " :=
  ⟨rfl, rfl, rfl⟩

end Mailroom.Instruction
