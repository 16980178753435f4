import Mailroom.Proofs.Machine.Fetched
import Mailroom.Proofs.Program.Print

/-!
# One more label

A declaration takes up no address. Put into a source at any place behind its header, it leaves the
instructions as they are and every other label where it is, since a label stands for the number of
instructions before it and a declaration is none. The new name stands for the number of instruction
lines before it.

A run asks the table for the labels of its jumps and for no others. As long as no jump has the new
name, no run can tell the two programs apart.
-/

set_option autoImplicit false
set_option maxRecDepth 10000

namespace Mailroom

/-! ## One more statement -/

theorem labelTable_insert (ss ts : List Statement) (name : String) :
    labelTable (ss ++ .label name :: ts) =
      labelTable ss ++ (name, (instructionCount ss : Int)) ::
        shiftLabels (instructionCount ss) (labelTable ts) := by
  rw [labelTable_append, labelTable_cons_label]
  simp [shiftLabels]

namespace Program

variable {p : Program} {header source : String}

theorem slots_insert (ss ts : List Statement) (name : String) :
    (ofStatements (ss ++ .label name :: ts)).slots = (ofStatements (ss ++ ts)).slots := by
  simp [ofStatements, List.filterMap_cons, Statement.slot?]

theorem address?_insert (ss ts : List Statement) {name label : String} (h : label ≠ name) :
    (ofStatements (ss ++ .label name :: ts)).address? label =
      (ofStatements (ss ++ ts)).address? label := by
  have hne : (label == name) = false := by simpa using h
  simp only [address?, ofStatements]
  rw [labelTable_insert, labelTable_append, List.lookup_append, List.lookup_append,
    List.lookup_cons, hne]

/-! ## Instruction lines -/

/-- The lines of instructions among the lines of a source. The first line that is not blank is the
header. -/
def instructionLines (ls : List String) : List String :=
  (Text.filled ls).tail.filter fun l => (Instruction.parse l).isOk

theorem isOk_parse_of_says {line : String} {s : Statement} (h : Says line s) :
    (Instruction.parse line).isOk = s.isInstruction := by
  cases s with
  | instruction i =>
    rw [says_instruction_iff.mp h]
    rfl
  | label name =>
    cases hp : Instruction.parse line with
    | error token => rfl
    | ok i => exact absurd (says_instruction_iff.mpr hp) (not_says_both h)

theorem length_filter_of_says {body : List String} {ss : List Statement}
    (h : List.Forall₂ Says body ss) :
    (body.filter fun l => (Instruction.parse l).isOk).length = instructionCount ss := by
  rw [← List.countP_eq_length_filter]
  induction h with
  | nil => rfl
  | cons hs _ ih =>
    rw [List.countP_cons, ih, isOk_parse_of_says hs]
    exact List.countP_cons.symm

/-! ## One more line -/

/-- A source is cut at a place behind its header. What comes before and what comes after say their
own statements, and with a declaration between them they say these and one more. -/
theorem exists_statements_insert {before after : List String} {name : String}
    (hload : load header source = .ok p) (hname : Text.IsName name)
    (hnew : name ∉ declarations source) (hsource : Text.lines source = before ++ after)
    (hplace : header ∈ before.map Text.strip) :
    ∃ ss ts, p = ofStatements (ss ++ ts) ∧
      (instructionLines before).length = instructionCount ss ∧
      (declaredNames (ss ++ .label name :: ts)).Nodup ∧
      ∀ other, Text.lines other = before ++ (name ++ ":") :: after →
        load header other = .ok (ofStatements (ss ++ .label name :: ts)) := by
  have hheader := isLine_header_of_load hload
  obtain ⟨body, said, hbody, hsays, hnd, rfl⟩ := load_eq_ok_iff.mp hload
  have hdeclared : declarations source = declaredNames said := by
    rw [declarations, hbody, List.tail_cons, filterMap_heading?_of_says hsays]
  rw [Text.filledLines, hsource, Text.filled_append] at hbody
  -- the header is the first line that is not blank, and it is before the place
  have hne : header ∈ Text.filled before := List.mem_filter.mpr ⟨hplace, by simp [hheader.ne_empty]⟩
  obtain ⟨body₁, hbefore, rfl⟩ :
      ∃ body₁, Text.filled before = header :: body₁ ∧ body = body₁ ++ Text.filled after := by
    rcases List.append_eq_cons_iff.mp hbody with ⟨hnil, -⟩ | h
    · rw [hnil] at hne
      cases hne
    · exact h
  obtain ⟨ss, ts, rfl, hss, hts⟩ : ∃ ss ts, said = ss ++ ts ∧ List.Forall₂ Says body₁ ss ∧
      List.Forall₂ Says (Text.filled after) ts := by
    have hflip := List.Forall₂.flip (R := flip Says) hsays
    exact ⟨_, _, (List.take_append_drop body₁.length said).symm,
      (List.forall₂_take_append _ _ _ hflip).flip, (List.forall₂_drop_append _ _ _ hflip).flip⟩
  have hnodup : (declaredNames (ss ++ .label name :: ts)).Nodup := by
    rw [hdeclared, declaredNames_append] at hnew
    rw [declaredNames_append] at hnd ⊢
    exact List.nodup_middle.mpr (List.nodup_cons.mpr ⟨hnew, hnd⟩)
  refine ⟨ss, ts, rfl, ?_, hnodup, ?_⟩
  · rw [instructionLines, hbefore, List.tail_cons, length_filter_of_says hss]
  · intro other hother
    have hlabel := hname.isWord_heading.isLine
    refine load_eq_ok_iff.mpr ⟨body₁ ++ (name ++ ":") :: Text.filled after, _, ?_,
      List.rel_append hss (.cons (.label hname rfl) hts), hnodup, rfl⟩
    rw [Text.filledLines, hother, Text.filled_append, hlabel.filled_cons, hbefore]
    rfl

theorem run_eq_of_unused_label {q : Program} {name : String} (hslots : q.slots = p.slots)
    (haddress : ∀ label, label ≠ name → q.address? label = p.address? label)
    (hunused : .instruction (.jump name) ∉ p.slots) {α : Type} (limit : Nat) (inbox : List α) :
    Machine.run q limit inbox = Machine.run p limit inbox := by
  refine Machine.run_eq_of_agreesOn (congrArg List.length hslots) ⟨fun a _ => ?_, ?_⟩
  · rw [slot?, hslots]
    rfl
  · intro label hlabel
    obtain ⟨e, he, hjump⟩ := List.mem_filterMap.mp hlabel
    have htrue := Machine.trueOf_of_mem_events he
    apply haddress
    rintro rfl
    cases e with
    | jumping other =>
      cases hjump
      exact hunused htrue
    | fetch pc slot => cases hjump
    | took v => cases hjump
    | gave v => cases hjump

/-- **Declarations cost nothing.** Into a source that is loaded, the declaration of a new name is
put as a line of its own at any place behind the header. The source is still loaded, to the same
instructions and with every other label where it was, and the new name stands for the number of
instruction lines before it. Where no jump has the new name, every run of the new program is the run
of the old one. -/
theorem load_insert_label_runs_alike (header source : String) (p : Program)
    (hload : load header source = .ok p) (name : String) (hname : Text.IsName name)
    (hnew : name ∉ declarations source) (before after : List String)
    (hsource : Text.lines source = before ++ after) (hplace : header ∈ before.map Text.strip) :
    (∃ other, Text.lines other = before ++ (name ++ ":") :: after) ∧
    ∀ other, Text.lines other = before ++ (name ++ ":") :: after →
      ∃ q, load header other = .ok q ∧ q.slots = p.slots ∧
        q.address? name = some ((instructionLines before).length : Int) ∧
        (∀ label, label ≠ name → q.address? label = p.address? label) ∧
        (.instruction (.jump name) ∉ p.slots →
          ∀ (α : Type) (limit : Nat) (inbox : List α),
            Machine.run q limit inbox = Machine.run p limit inbox) := by
  constructor
  · refine ⟨Text.joinLines (before ++ (name ++ ":") :: after), Text.lines_joinLines ?_⟩
    -- lines have no breaks in them, so joining them gives a source that has these lines
    have hlines : ∀ l ∈ before ++ after, Text.Unbroken l := by
      intro l hl
      rw [← hsource] at hl
      exact Text.unbroken_of_mem_lines hl
    intro l hl
    rcases List.mem_append.mp hl with hl | hl
    · exact hlines l (List.mem_append_left _ hl)
    · rcases List.mem_cons.mp hl with rfl | hl
      · exact hname.isWord_heading.unbroken
      · exact hlines l (List.mem_append_right _ hl)
  · intro other hother
    obtain ⟨ss, ts, rfl, hcount, hnodup, hall⟩ :=
      exists_statements_insert hload hname hnew hsource hplace
    have hslots := slots_insert ss ts name
    have haddress : ∀ label, label ≠ name → _ := fun label h => address?_insert ss ts h
    refine ⟨_, hall other hother, hslots, ?_, haddress, ?_⟩
    · rw [hcount, address?_ofStatements hnodup]
    · intro hunused α limit inbox
      exact run_eq_of_unused_label hslots haddress hunused limit inbox

/-- A name is declared between an instruction and a jump back over it, in a source whose lines end
in several ways. -/
theorem load_insert_label_runs_alike_in_loop :
    ∃ p q, load "HRM" "\nHRM\r\nback:\r\n  INBOX\rJUMP back" = .ok p ∧
      load "HRM" "\nHRM\nback:\n  INBOX\nspare:\nJUMP back\n" = .ok q ∧
      p.labels = [("back", 0)] ∧ q.address? "spare" = some 1 ∧ q.address? "back" = some 0 ∧
      ∀ (limit : Nat) (inbox : List Int),
        Machine.run q limit inbox = Machine.run p limit inbox := by
  let p : Program := ⟨[.instruction .inbox, .instruction (.jump "back")], [("back", 0)]⟩
  have hload : load "HRM" "\nHRM\r\nback:\r\n  INBOX\rJUMP back" = .ok p := rfl
  have hnew : "spare" ∉ declarations "\nHRM\r\nback:\r\n  INBOX\rJUMP back" := by
    rw [← map_fst_labels_of_load hload]
    decide
  obtain ⟨q, hq, -, hspare, hothers, hrun⟩ := (load_insert_label_runs_alike "HRM" _ p hload "spare"
    (by decide) hnew ["", "HRM", "back:", "  INBOX"] ["JUMP back"] rfl (by decide)).2
    "\nHRM\nback:\n  INBOX\nspare:\nJUMP back\n" rfl
  exact ⟨p, q, hload, hq, rfl, hspare, hothers "back" (by decide), hrun (by simp [p]) Int⟩

end Program

end Mailroom
