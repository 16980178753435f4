import Mailroom.Proofs.Level.Faults
import Mailroom.Proofs.Text.Decimal

/-!
# The first fault of a level

The lines of a level are read one by one, and the first that cannot be taken is blamed with its
number. What is checked at the end, when all lines have been taken, names no line. So a fault that
names a line depends on the lines up to that one, and without that line there is no such fault.

The text of a fault tells the two kinds apart: `namesLine_iff` reads the number of the line back.
-/

set_option autoImplicit false

namespace Mailroom

open Text

variable {e : LevelError} {n : Nat}

/-! ## What a message says -/

namespace LevelError

/-- The message of the fault starts with the number of this line. -/
def NamesLine (e : LevelError) (n : Nat) : Prop :=
  ("line " ++ toString n ++ ":").toList <+: e.message.toList

theorem toList_atLine_message (line : Nat) (fault : LineFault) :
    (LevelError.atLine line fault).message.toList =
      "line ".toList ++ ((toString line).toList ++ ':' :: ' ' :: fault.message.toList) := by
  have hmessage : (LevelError.atLine line fault).message =
      "line " ++ toString line ++ ": " ++ fault.message := rfl
  rw [hmessage]
  simp

theorem exists_atLine_of_message (h : e.message.toList.take 5 = "line ".toList) :
    ∃ line fault, e = .atLine line fault := by
  cases e with
  | atLine line fault => exact ⟨line, fault, rfl⟩
  | missingGoals => exact absurd h (by decide)
  | incompleteGoals => exact absurd h (by decide)
  | notMapping => exact absurd h (by decide)
  | testsNotList => exact absurd h (by decide)
  | invalid title issues =>
    have hmessage : (LevelError.invalid title issues).message = "invalid level" := rfl
    rw [hmessage] at h
    exact absurd h (by decide)
  | malformed => exact absurd h (by decide)
  | notUtf8 u =>
    have hmessage : (LevelError.notUtf8 u).message = "level is not valid UTF-8: " ++ u.message :=
      rfl
    rw [hmessage, String.toList_append, List.take_append_of_le_length (by decide)] at h
    exact absurd h (by decide)

theorem namesLine_iff : e.NamesLine n ↔ ∃ fault, e = .atLine n fault := by
  unfold NamesLine
  constructor
  · rintro ⟨rest, hrest⟩
    obtain ⟨line, fault, rfl⟩ : ∃ line fault, e = .atLine line fault := by
      apply exists_atLine_of_message
      rw [← hrest]
      simp
    have hnumber : (toString n).toList ++ ':' :: rest =
        (toString line).toList ++ ':' :: ' ' :: fault.message.toList := by
      rw [toList_atLine_message] at hrest
      simpa using hrest
    rw [← toString_natCast n, ← toString_natCast line] at hnumber
    obtain ⟨hsame, -⟩ := toString_append_cons_inj (by decide) (by decide) hnumber
    obtain rfl : n = line := Int.ofNat_inj.mp hsame
    exact ⟨fault, rfl⟩
  · rintro ⟨fault, rfl⟩
    rw [toList_atLine_message]
    exact ⟨' ' :: fault.message.toList, by simp⟩

theorem NamesLine.unique {m : Nat} (hm : e.NamesLine m) (hn : e.NamesLine n) : m = n := by
  obtain ⟨fault, rfl⟩ := namesLine_iff.mp hm
  obtain ⟨fault', he⟩ := namesLine_iff.mp hn
  cases he
  rfl

end LevelError

namespace Level

open LevelError

/-! ## Where a reader stops -/

theorem readNumbers_eq_error {line : Nat} {cs : List Char}
    (h : readNumbers line cs = .error (.level e)) : ∃ fault, e = .atLine line fault := by
  obtain ⟨word, -, hword⟩ := exists_of_mapM_eq_error h
  split at hword
  · cases hword
  · cases hword
    exact ⟨_, rfl⟩

theorem readStatement_eq_error {line : Nat} {text : String}
    (h : readStatement line text = .error (.level e)) : ∃ fault, e = .atLine line fault := by
  unfold readStatement at h
  split at h
  · split at h
    · cases h
    · cases h
  · -- the numbers of the output come after those of the input
    rcases bind_eq_error_iff.mp h with hinput | ⟨input, -, h⟩
    · exact readNumbers_eq_error hinput
    · rcases bind_eq_error_iff.mp h with houtput | ⟨output, -, h⟩
      · exact readNumbers_eq_error houtput
      · cases h
  · cases h
    exact ⟨_, rfl⟩

theorem addLine_eq_level_error {ss : List Section} {line : SourceLine}
    (h : addLine ss line = .error (.level e)) : ∃ fault, e = .atLine line.number fault := by
  unfold addLine at h
  split at h
  · split at h
    · cases h
      exact ⟨_, rfl⟩
    · cases h
  · split at h
    · cases h
      exact ⟨_, rfl⟩
    · split at h
      · cases h
      · rename_i hstatement
        cases h
        exact readStatement_eq_error hstatement

theorem ofSections_names_no_line {ss : List Section} {f : LevelFailure}
    (h : ofSections ss = .error f) : ∃ e, f = .level e ∧ ∀ m, ¬ e.NamesLine m := by
  simp only [namesLine_iff]
  rcases ofSections_eq_error h with ⟨-, rfl⟩ | ⟨goals, -, rfl, -⟩ | ⟨title, issues, rfl⟩
  · exact ⟨_, rfl, by simp⟩
  · exact ⟨_, rfl, by simp⟩
  · exact ⟨_, rfl, by simp⟩

theorem readSections_of_namesLine {text : String} (h : ofText text = .error (.level e))
    (hn : e.NamesLine n) : readSections text = .error (.level e) := by
  unfold ofText at h
  split at h
  · obtain ⟨e', he, hnone⟩ := ofSections_names_no_line h
    cases he
    exact absurd hn (hnone n)
  · rename_i hread
    cases h
    exact hread

/-- Where the reader is stopped by a fault of the level, it is stopped at the line that the fault
names, with the sections of the lines before it in hand. -/
theorem readSections_eq_error {text : String} (h : readSections text = .error (.level e)) :
    ∃ before line after ss, sourceLines text = before ++ line :: after ∧
      before.foldlM addLine [] = .ok ss ∧ addLine ss line = .error (.level e) ∧
      e.NamesLine line.number := by
  obtain ⟨before, line, after, ss, hlines, hbefore, hline⟩ := foldlM_eq_error_iff.mp h
  exact ⟨before, line, after, ss, hlines, hbefore, hline,
    namesLine_iff.mpr (addLine_eq_level_error hline)⟩

/-- **The reader of a level reports the first bad line.** A fault that names a line names one of the
text. Every text with the same lines up to there has the same fault, whatever follows. A text of the
lines before it is read to its end: it may lack goals or hold numbers out of range, but it has no
fault that names a line. -/
theorem ofText_reports_first_bad_line (text : String) (e : LevelError) (n : Nat)
    (h : ofText text = .error (.level e)) (hn : e.NamesLine n) :
    (1 ≤ n ∧ n ≤ (lines text).length) ∧
    (∀ other, (lines other).take n = (lines text).take n → ofText other = .error (.level e)) ∧
    ∀ front, lines front = (lines text).take (n - 1) →
      ∀ f, ofText front = .error f → ∃ e', f = .level e' ∧ ∀ m, ¬ e'.NamesLine m := by
  obtain ⟨before, line, after, ss, hlines, hbefore, hline, hnames⟩ :=
    readSections_eq_error (readSections_of_namesLine h hn)
  obtain rfl : line.number = n := hnames.unique hn
  obtain ⟨hpos, hle, hfront, hothers⟩ := numberedFrom_take hlines
  refine ⟨⟨hpos, hle⟩, fun other hother => ?_, fun front hlines f hf => ?_⟩
  · obtain ⟨more, hmore⟩ := hothers (lines other) hother
    have hread : readSections other = .error (.level e) :=
      foldlM_eq_error_iff.mpr ⟨before, line, more, ss, hmore, hbefore, hline⟩
    rw [ofText, hread]
  · have hread : readSections front = .ok ss := by
      rw [readSections, sourceLines, hlines, hfront, hbefore]
    rw [ofText, hread] at hf
    exact ofSections_names_no_line hf

/-- The second number of an output is a word. A line before it is blank, goals are missing, and a
section is opened again behind it. -/
theorem ofText_reports_first_bad_line_in_output :
    let e : LevelError := .atLine 5 (.invalidNumber "x")
    ofText "goals:\r\n\nsize = 1\x0ctests:\n[ 1 ] -> [ 2 x ]\ngoals:\n" = .error (.level e) ∧
      (∀ other, (lines other).take 5 = ["goals:", "", "size = 1", "tests:", "[ 1 ] -> [ 2 x ]"] →
        ofText other = .error (.level e)) ∧
      ∀ f, ofText "goals:\n\nsize = 1\ntests:\n" = .error f →
        ∃ e', f = .level e' ∧ ∀ m, ¬ e'.NamesLine m := by
  intro e
  have hread : ofText "goals:\r\n\nsize = 1\x0ctests:\n[ 1 ] -> [ 2 x ]\ngoals:\n" =
      .error (.level e) := rfl
  obtain ⟨-, hothers, hfront⟩ :=
    ofText_reports_first_bad_line _ e 5 hread (namesLine_iff.mpr ⟨_, rfl⟩)
  exact ⟨hread, hothers, hfront _ rfl⟩

end Level

end Mailroom
