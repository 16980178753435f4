import Mailroom.Proofs.Data.Failing
import Mailroom.Proofs.Program.Grammar

/-!
# The first fault of a source

The loader goes through the lines once and stops at the first that is wrong. So what it says about a
line depends on the lines up to that one and not on what follows, and the lines before it can be
loaded by themselves. A fault in the header is the one exception: before the header there is nothing
to load.

The numbers are put on before blank lines are left out. `Text.numberedFrom_take` brings the line
that is blamed back to its place among all lines.
-/

set_option autoImplicit false
set_option maxRecDepth 10000

namespace Mailroom.Program

variable {header : String} {e : LoadError}

/-! ## Where the loader stops -/

theorem addLine_eq_error {p : Program} {l : Text.SourceLine} (h : addLine p l = .error e) :
    e.line = some (l.number : Int) ∧ ∀ text, e.cause ≠ .invalidHeader text := by
  unfold addLine at h
  split at h
  · split at h
    · cases h
      exact ⟨rfl, by simp⟩
    · cases h
  · split at h
    · cases h
    · cases h
      exact ⟨rfl, by simp⟩

/-- A fault has a line, unless there is none to have it. It is the same whatever comes behind that
line, and what comes before it is loaded, unless that line is the first. -/
theorem loadLines_eq_error {ls : List Text.SourceLine} (h : loadLines header ls = .error e) :
    (ls = [] ∧ e.line = none) ∨
      ∃ front l back, ls = front ++ l :: back ∧ e.line = some (l.number : Int) ∧
        (∀ more, loadLines header (front ++ l :: more) = .error e) ∧
        ((front = [] ∧ ∃ text, e.cause = .invalidHeader text) ∨
          (∃ p, loadLines header front = .ok p) ∧ ∀ text, e.cause ≠ .invalidHeader text) := by
  cases ls with
  | nil =>
    cases h
    exact Or.inl ⟨rfl, rfl⟩
  | cons first rest =>
    right
    by_cases hheader : first.text = header
    · -- the header is right, and the fault is that of a line that the loop comes to
      have hload : ∀ ls, loadLines header (first :: ls) = addLines empty ls := fun ls =>
        if_pos hheader
      rw [hload] at h
      obtain ⟨front, l, back, p, rfl, hfront, hl⟩ := foldlM_eq_error_iff.mp h
      obtain ⟨hline, hcause⟩ := addLine_eq_error hl
      refine ⟨first :: front, l, back, rfl, hline, ?_, Or.inr ⟨⟨p, ?_⟩, hcause⟩⟩
      · intro more
        rw [List.cons_append, hload]
        exact foldlM_eq_error_iff.mpr ⟨front, l, more, p, rfl, hfront, hl⟩
      · rw [hload]
        exact hfront
    · -- no line behind a wrong header is looked at
      have hload : ∀ ls, loadLines header (first :: ls) =
          .error ⟨some first.number, .invalidHeader first.text⟩ := fun ls => if_neg hheader
      rw [hload] at h
      cases h
      exact ⟨[], first, rest, rfl, rfl, hload, Or.inl ⟨rfl, _, rfl⟩⟩

/-- **The loader reports the first fault, and its line.** A fault that has a line has the number of
a line of the source. Every source with the same lines up to there has the same fault, whatever
follows, and the lines before it are loaded by themselves. Where the fault is that of the header,
the lines before it are blank. A fault that has no line is that of a source whose lines are all
blank. -/
theorem load_reports_first_fault (header source : String) (e : LoadError)
    (h : load header source = .error e) :
    (∀ n, e.line = some n →
      ∃ k : Nat, n = k ∧ 1 ≤ k ∧ k ≤ (Text.lines source).length ∧
        (∀ other, (Text.lines other).take k = (Text.lines source).take k →
          load header other = .error e) ∧
        ((∀ text, e.cause ≠ .invalidHeader text) →
          ∀ front, Text.lines front = (Text.lines source).take (k - 1) →
            ∃ p, load header front = .ok p) ∧
        ((∃ text, e.cause = .invalidHeader text) →
          ∀ line ∈ (Text.lines source).take (k - 1), Text.strip line = "")) ∧
    (e.line = none → ∀ line ∈ Text.lines source, Text.strip line = "") := by
  rw [load] at h
  rcases loadLines_eq_error h with ⟨hnone, hline⟩ | ⟨front, l, back, hls, hline, hmore, hbefore⟩
  · constructor
    · intro n hn
      rw [hline] at hn
      cases hn
    · exact fun _ => Text.numberedFrom_eq_nil_iff.mp hnone
  · obtain ⟨hpos, hle, rfl, hothers⟩ := Text.numberedFrom_take hls
    rw [hline]
    refine ⟨fun n hn => ⟨l.number, (Option.some.inj hn).symm, hpos, hle, ?_, ?_, ?_⟩, by simp⟩
    · intro other hother
      obtain ⟨more, hseen⟩ := hothers (Text.lines other) hother
      rw [load, Text.sourceLines, hseen]
      exact hmore more
    · intro hcause front hfront
      rw [load, Text.sourceLines, hfront]
      rcases hbefore with ⟨-, text, htext⟩ | ⟨hloaded, -⟩
      · exact absurd htext (hcause text)
      · exact hloaded
    · rintro ⟨text, htext⟩
      rcases hbefore with ⟨hblank, -⟩ | ⟨-, hcause⟩
      · exact Text.numberedFrom_eq_nil_iff.mp hblank
      · exact absurd htext (hcause text)

/-- A name is declared again on the sixth line. Before it, two lines are blank, and the lines end in
several ways; after it, a line is wrong too. -/
theorem load_reports_first_fault_of_second_declaration :
    let e : LoadError := ⟨some 6, .duplicateLabel "loop"⟩
    load "HRM" "\r\nHRM\nloop:\r\n\rINBOX\x0c loop: \nJUMP\n" = .error e ∧
      (∀ other, (Text.lines other).take 6 = ["", "HRM", "loop:", "", "INBOX", " loop: "] →
        load "HRM" other = .error e) ∧
      ∃ p, load "HRM" "\nHRM\nloop:\n\nINBOX\n" = .ok p := by
  intro e
  have hload : load "HRM" "\r\nHRM\nloop:\r\n\rINBOX\x0c loop: \nJUMP\n" = .error e := by
    have hseen :
        Text.numberedFrom 1 (Text.lines "\r\nHRM\nloop:\r\n\rINBOX\x0c loop: \nJUMP\n") =
          [⟨2, "HRM"⟩, ⟨3, "loop:"⟩, ⟨5, "INBOX"⟩, ⟨6, "loop:"⟩, ⟨7, "JUMP"⟩] := by decide
    rw [load, Text.sourceLines, hseen]
    rfl
  obtain ⟨k, hk, -, -, hothers, hfront, -⟩ := (load_reports_first_fault _ _ e hload).1 6 rfl
  obtain rfl : k = 6 := by omega
  exact ⟨hload, hothers, hfront (by simp [e]) _ rfl⟩

end Mailroom.Program
