import Mailroom.Proofs.Text.Lines

/-!
# Numbered lines

A reader of source goes through the lines that are not blank, and each of them keeps the number that
it has among all lines. Where one of the lines that a reader goes through is singled out, the lines
of the text are cut there too (`exists_of_numberedFrom_eq`): its number tells how many lines come
before it, and what a reader has seen up to there is what it sees of these lines alone
(`numberedFrom_take`). What comes behind has no part in it.
-/

set_option autoImplicit false

namespace Mailroom.Text

theorem numberedFrom_nil (n : Nat) : numberedFrom n [] = [] := rfl

theorem numberedFrom_cons_of_blank {l : String} (h : strip l = "") (n : Nat) (ls : List String) :
    numberedFrom n (l :: ls) = numberedFrom (n + 1) ls := by
  simp [numberedFrom, h]

theorem numberedFrom_cons_of_filled {l : String} (h : strip l ≠ "") (n : Nat) (ls : List String) :
    numberedFrom n (l :: ls) = ⟨n, strip l⟩ :: numberedFrom (n + 1) ls := by
  simp [numberedFrom, h]

theorem numberedFrom_append (n : Nat) (ls ms : List String) :
    numberedFrom n (ls ++ ms) = numberedFrom n ls ++ numberedFrom (n + ls.length) ms := by
  simp [numberedFrom, List.zipIdx_append]

theorem numberedFrom_eq_nil_iff {n : Nat} {ls : List String} :
    numberedFrom n ls = [] ↔ ∀ l ∈ ls, strip l = "" := by
  induction ls generalizing n with
  | nil => simp [numberedFrom_nil]
  | cons l ls ih =>
    by_cases h : strip l = ""
    · rw [numberedFrom_cons_of_blank h, ih, List.forall_mem_cons, and_iff_right h]
    · rw [numberedFrom_cons_of_filled h]
      simp [h]

theorem map_text_numberedFrom (n : Nat) (ls : List String) :
    (numberedFrom n ls).map SourceLine.text = filled ls := by
  induction ls generalizing n with
  | nil => rfl
  | cons l ls ih =>
    by_cases h : strip l = ""
    · rw [numberedFrom_cons_of_blank h, ih]
      simp [filled, h]
    · rw [numberedFrom_cons_of_filled h, List.map_cons, ih]
      simp [filled, h]

theorem map_text_sourceLines (source : String) :
    (sourceLines source).map SourceLine.text = filledLines source :=
  map_text_numberedFrom 1 (lines source)

/-- Where the lines are cut that a reader sees, the lines of the text are cut. -/
theorem exists_of_numberedFrom_eq {n : Nat} {ls : List String} {front back : List SourceLine}
    {l : SourceLine} (h : numberedFrom n ls = front ++ l :: back) :
    ∃ before line after, ls = before ++ line :: after ∧ numberedFrom n before = front ∧
      strip line ≠ "" ∧ l = ⟨n + before.length, strip line⟩ := by
  -- along the lines, with the number of the first going up
  induction ls generalizing n front with
  | nil => simp [numberedFrom_nil] at h
  | cons first ls ih =>
    by_cases hblank : strip first = ""
    · rw [numberedFrom_cons_of_blank hblank] at h
      obtain ⟨before, line, after, rfl, hbefore, hline, rfl⟩ := ih h
      refine ⟨first :: before, line, after, rfl, ?_, hline, ?_⟩
      · rw [numberedFrom_cons_of_blank hblank, hbefore]
      · rw [List.length_cons, Nat.add_right_comm, Nat.add_assoc]
    · rw [numberedFrom_cons_of_filled hblank] at h
      cases front with
      | nil =>
        obtain ⟨rfl, -⟩ := List.cons.inj h
        exact ⟨[], first, ls, rfl, rfl, hblank, rfl⟩
      | cons f front =>
        obtain ⟨rfl, hrest⟩ := List.cons.inj h
        obtain ⟨before, line, after, rfl, hbefore, hline, rfl⟩ := ih hrest
        refine ⟨first :: before, line, after, rfl, ?_, hline, ?_⟩
        · rw [numberedFrom_cons_of_filled hblank, hbefore]
        · rw [List.length_cons, Nat.add_right_comm, Nat.add_assoc]

/-- The line of a number is where it is among all lines, and what is seen before it is what is seen
of the lines before it. -/
theorem numberedFrom_take {ls : List String} {front back : List SourceLine} {l : SourceLine}
    (h : numberedFrom 1 ls = front ++ l :: back) :
    1 ≤ l.number ∧ l.number ≤ ls.length ∧ numberedFrom 1 (ls.take (l.number - 1)) = front ∧
      ∀ others, others.take l.number = ls.take l.number →
        ∃ more, numberedFrom 1 others = front ++ l :: more := by
  obtain ⟨before, line, after, rfl, rfl, hline, rfl⟩ := exists_of_numberedFrom_eq h
  have hcut : (before ++ line :: after).take (1 + before.length) = before ++ [line] := by
    rw [List.append_cons]
    exact List.take_left' (by simp [Nat.add_comm])
  refine ⟨Nat.le_add_right _ _, by simp [Nat.add_comm], ?_, fun others hothers => ?_⟩
  · rw [Nat.add_sub_cancel_left, List.take_left]
  · rw [← List.take_append_drop (1 + before.length) others, hothers, hcut, List.append_assoc,
      numberedFrom_append]
    exact ⟨_, congrArg _ (numberedFrom_cons_of_filled hline _ _)⟩

end Mailroom.Text
