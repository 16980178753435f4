import Mailroom.Proofs.Text.Words
import Mailroom.Text.Line
import Mathlib.Data.List.DropRight

/-!
# Lines of a text

What a reader of source sees of a text are its stripped lines, without the empty ones:
`filledLines`. Three facts about them are enough to read texts that were put together of lines.
Each of them is a line in the sense of `IsLine`, such a line with a line feed after it is a text of
that one line, and a line feed cuts a text in two that can be read apart. A word is such a line,
and so are two lines with a space between them.
-/

set_option autoImplicit false

namespace Mailroom.Text

/-! ## Stripping -/

theorem trimBoth_eq (p : Char → Bool) (cs : List Char) :
    trimBoth p cs = (cs.dropWhile p).rdropWhile p := rfl

theorem trimBoth_subset (p : Char → Bool) (cs : List Char) : trimBoth p cs ⊆ cs := by
  intro c hc
  rw [trimBoth_eq] at hc
  exact List.dropWhile_subset p ((List.rdropWhile_prefix p _).subset hc)

theorem dropWhile_trimBoth (p : Char → Bool) (cs : List Char) :
    (trimBoth p cs).dropWhile p = trimBoth p cs := by
  rw [trimBoth_eq]
  obtain ⟨back, hback⟩ := List.rdropWhile_prefix p (cs.dropWhile p)
  cases hl : (cs.dropWhile p).rdropWhile p with
  | nil => rfl
  | cons c front =>
    rw [hl, List.cons_append] at hback
    have hc := List.head?_dropWhile_not p cs
    rw [← hback] at hc
    simp only [List.head?_cons] at hc
    exact List.dropWhile_cons_of_neg (by simp [hc])

theorem trimBoth_trimBoth (p : Char → Bool) (cs : List Char) :
    trimBoth p (trimBoth p cs) = trimBoth p cs := by
  rw [trimBoth_eq p (trimBoth p cs), dropWhile_trimBoth, trimBoth_eq, List.rdropWhile_idempotent]

@[simp] theorem strip_strip (s : String) : strip (strip s) = strip s := by
  simp [strip, trimBoth_trimBoth]

theorem trimBoth_eq_self_iff {p : Char → Bool} {cs : List Char} :
    trimBoth p cs = cs ↔
      (∀ c, cs.head? = some c → p c = false) ∧ ∀ c, cs.getLast? = some c → p c = false := by
  constructor
  · intro h
    have hfront : cs.dropWhile p = cs := h ▸ dropWhile_trimBoth p cs
    have hback : cs.rdropWhile p = cs := by rwa [trimBoth_eq, hfront] at h
    refine ⟨fun c hc => ?_, fun c hc => ?_⟩
    · have hnot := List.head?_dropWhile_not p cs
      rw [hfront, hc] at hnot
      exact hnot
    · obtain ⟨init, rfl⟩ := List.getLast?_eq_some_iff.mp hc
      simpa using List.rdropWhile_eq_self_iff.mp hback (by simp)
  · rintro ⟨hfirst, hlast⟩
    have hfront : cs.dropWhile p = cs := by
      cases cs with
      | nil => rfl
      | cons c cs => exact List.dropWhile_cons_of_neg (by simp [hfirst c rfl])
    rw [trimBoth_eq, hfront, List.rdropWhile_eq_self_iff]
    intro hne
    simp [hlast _ (List.getLast?_eq_some_getLast hne)]

/-! ## Cutting at line breaks -/

theorem lineChars_cons_of_plain {c : Char} (hc : isLineBreak c = false) (cs : List Char) :
    lineChars (c :: cs) = (c :: (lineChars cs).headD []) :: (lineChars cs).tail := by
  rw [lineChars]
  · rw [if_neg (by simp [hc])]
    cases lineChars cs <;> rfl
  · rintro cs rfl -
    simp [isLineBreak] at hc

theorem lineChars_cons_of_break {c : Char} {cs : List Char} (hc : isLineBreak c = true)
    (hn : ∀ cs', c = '\r' → cs = '\n' :: cs' → False) :
    lineChars (c :: cs) = [] :: lineChars cs := by
  rw [lineChars]
  · rw [if_pos hc]
  · exact hn

theorem lineChars_ne_nil {cs : List Char} (h : cs ≠ []) : lineChars cs ≠ [] := by
  fun_cases lineChars cs <;> simp_all

theorem lineChars_append_newline (a b : List Char) :
    lineChars (a ++ '\n' :: b) = lineChars (a ++ ['\n']) ++ lineChars b := by
  have plain : ∀ (c : Char) (cs : List Char), isLineBreak c = false →
      lineChars (cs ++ '\n' :: b) = lineChars (cs ++ ['\n']) ++ lineChars b →
      lineChars (c :: cs ++ '\n' :: b) = lineChars (c :: cs ++ ['\n']) ++ lineChars b := by
    intro c cs hc ih
    have hne : lineChars (cs ++ ['\n']) ≠ [] := lineChars_ne_nil (by simp)
    rw [List.cons_append, List.cons_append, lineChars_cons_of_plain hc,
      lineChars_cons_of_plain hc, ih]
    cases hl : lineChars (cs ++ ['\n']) with
    | nil => exact absurd hl hne
    | cons line rest => rfl
  fun_induction lineChars a with
  | case1 => simp [lineChars, isLineBreak]
  | case2 cs ih => simp [lineChars, ih]
  | case3 c cs hn hc ih =>
    cases cs with
    | nil =>
      -- the break before the line feed may be a carriage return, and then they are one
      by_cases hr : c = '\r'
      · subst hr
        simp [lineChars]
      · rw [List.singleton_append, List.singleton_append,
          lineChars_cons_of_break hc fun _ h _ => hr h,
          lineChars_cons_of_break hc fun _ h _ => hr h]
        simpa using ih
    | cons d cs =>
      have hcut : ∀ more : List Char,
          lineChars (c :: d :: cs ++ more) = [] :: lineChars (d :: cs ++ more) := by
        intro more
        refine lineChars_cons_of_break hc fun cs' hr hd => hn cs hr ?_
        simp only [List.append_eq, List.cons_append, List.cons.injEq] at hd
        rw [hd.1]
      rw [hcut, hcut, ih]
      rfl
  | case4 c cs _ hc _ ih => exact plain c cs (by simpa using hc) ih
  | case5 c cs _ hc _ _ _ ih => exact plain c cs (by simpa using hc) ih

theorem not_isLineBreak_of_mem_lineChars {cs line : List Char} (hl : line ∈ lineChars cs)
    {c : Char} (hc : c ∈ line) : isLineBreak c = false := by
  fun_induction lineChars cs generalizing line with
  | case1 => simp at hl
  | case2 cs ih =>
    rcases List.mem_cons.mp hl with rfl | hl
    · simp at hc
    · exact ih hl hc
  | case3 d cs _ _ ih =>
    rcases List.mem_cons.mp hl with rfl | hl
    · simp at hc
    · exact ih hl hc
  | case4 d cs _ hd _ ih =>
    simp only [List.mem_singleton] at hl
    subst hl
    simp only [List.mem_singleton] at hc
    subst hc
    simpa using hd
  | case5 d cs _ hd first rest heq ih =>
    rcases List.mem_cons.mp hl with rfl | hl
    · rcases List.mem_cons.mp hc with rfl | hc
      · simpa using hd
      · exact ih (by rw [heq]; simp) hc
    · exact ih (by rw [heq]; simp [hl]) hc

theorem lineChars_of_plain {cs : List Char} (h : ∀ c ∈ cs, isLineBreak c = false) :
    lineChars (cs ++ ['\n']) = [cs] := by
  induction cs with
  | nil => simp [lineChars, isLineBreak]
  | cons c cs ih =>
    rw [List.cons_append, lineChars_cons_of_plain (h c (by simp)),
      ih fun d hd => h d (by simp [hd])]
    rfl

theorem length_lineChars_le (cs : List Char) : (lineChars cs).length ≤ cs.length := by
  fun_induction lineChars cs with
  | case1 => simp
  | case2 cs ih =>
    simp only [List.length_cons]
    omega
  | case3 c cs _ _ ih =>
    simp only [List.length_cons]
    omega
  | case4 c cs _ _ heq ih => simp
  | case5 c cs _ _ line rest heq ih =>
    rw [heq] at ih
    simp only [List.length_cons] at ih ⊢
    omega

/-- A line ends where it ended before, since each carriage return that is replaced ends a line by
itself, or with the line feed after it. -/
theorem lineChars_unifyNewlines (cs : List Char) : lineChars (unifyNewlines cs) = lineChars cs := by
  have newline : ∀ cs, lineChars ('\n' :: cs) = [] :: lineChars cs := fun cs =>
    lineChars_cons_of_break (by decide) (by simp)
  fun_induction unifyNewlines cs with
  | case1 => rfl
  | case2 cs ih => rw [newline, ih, lineChars]
  | case3 cs hn ih =>
    rw [newline, ih, lineChars_cons_of_break (by decide) fun cs' _ h => hn cs' h]
  | case4 c cs _ hr ih =>
    by_cases hc : isLineBreak c = true
    · rw [lineChars_cons_of_break hc fun _ h _ => hr h,
        lineChars_cons_of_break hc fun _ h _ => hr h, ih]
    · rw [lineChars_cons_of_plain (by simpa using hc), lineChars_cons_of_plain (by simpa using hc),
        ih]

def Unbroken (s : String) : Prop := ∀ c ∈ s.toList, isLineBreak c = false

instance (s : String) : Decidable (Unbroken s) :=
  decidable_of_iff (s.toList.all fun c => !isLineBreak c) (by simp [Unbroken])

theorem unbroken_of_mem_lines {l s : String} (h : l ∈ lines s) : Unbroken l := by
  obtain ⟨cs, hcs, rfl⟩ := List.mem_map.mp h
  intro c hc
  rw [String.toList_ofList] at hc
  exact not_isLineBreak_of_mem_lineChars hcs hc

theorem Unbroken.append {a b : String} (ha : Unbroken a) (hb : Unbroken b) : Unbroken (a ++ b) := by
  intro c hc
  rw [String.toList_append, List.mem_append] at hc
  exact hc.elim (ha c) (hb c)

theorem Unbroken.intercalate {sep : String} {ls : List String} (hsep : Unbroken sep)
    (h : ∀ l ∈ ls, Unbroken l) : Unbroken (sep.intercalate ls) := by
  induction ls with
  | nil => exact (by decide : Unbroken "")
  | cons l ls ih =>
    cases ls with
    | nil => simpa using h l
    | cons m ls =>
      rw [String.intercalate_cons_cons]
      exact ((h l (by simp)).append hsep).append (ih fun k hk => h k (by simp [hk]))

theorem lines_unifyNewlines (s : String) :
    lines (String.ofList (unifyNewlines s.toList)) = lines s := by
  rw [lines, String.toList_ofList, lineChars_unifyNewlines, lines]

theorem lines_append_newline (a b : String) :
    lines (a ++ "\n" ++ b) = lines (a ++ "\n") ++ lines b := by
  simp only [lines, String.toList_append]
  rw [List.append_assoc]
  exact (congrArg _ (lineChars_append_newline _ _)).trans List.map_append

theorem lines_of_unbroken {l : String} (h : Unbroken l) :
    lines (l ++ "\n") = [l] := by
  simp only [lines, String.toList_append]
  exact (congrArg _ (lineChars_of_plain h)).trans (by simp)

theorem joinLines_cons (l : String) (ls : List String) :
    joinLines (l :: ls) = l ++ "\n" ++ joinLines ls := by
  simp [joinLines]

theorem lines_joinLines {ls : List String} (h : ∀ l ∈ ls, Unbroken l) :
    lines (joinLines ls) = ls := by
  induction ls with
  | nil => rfl
  | cons l ls ih =>
    rw [joinLines_cons, lines_append_newline, lines_of_unbroken (h l (by simp)),
      ih fun m hm => h m (by simp [hm])]
    rfl

/-! ## Stripped lines -/

def filled (ls : List String) : List String := (ls.map strip).filter fun l => !l.isEmpty

def filledLines (s : String) : List String := filled (lines s)

/-- A line that is neither empty nor has anything to strip. -/
structure IsLine (l : String) : Prop where
  ne_empty : l ≠ ""
  stripped : strip l = l
  unbroken : Unbroken l

instance (l : String) : Decidable (IsLine l) :=
  decidable_of_iff (l ≠ "" ∧ strip l = l ∧ Unbroken l)
    ⟨fun h => ⟨h.1, h.2.1, h.2.2⟩, fun h => ⟨h.ne_empty, h.stripped, h.unbroken⟩⟩

theorem filled_append (ls ms : List String) : filled (ls ++ ms) = filled ls ++ filled ms := by
  simp [filled]

theorem IsLine.filled_cons {l : String} (h : IsLine l) (ls : List String) :
    filled (l :: ls) = l :: filled ls := by
  simp [filled, h.stripped, h.ne_empty]

theorem length_filledLines_le (s : String) : (filledLines s).length ≤ s.length := by
  refine (List.length_filter_le ..).trans ?_
  rw [List.length_map, lines, List.length_map, ← String.length_toList]
  exact length_lineChars_le _

theorem filledLines_append_newline (a b : String) :
    filledLines (a ++ "\n" ++ b) = filledLines (a ++ "\n") ++ filledLines b := by
  rw [filledLines, lines_append_newline, filled_append, filledLines, filledLines]

theorem isLine_of_mem_filledLines {l s : String} (h : l ∈ filledLines s) : IsLine l := by
  obtain ⟨hmem, hne⟩ := List.mem_filter.mp h
  obtain ⟨line, hline, rfl⟩ := List.mem_map.mp hmem
  refine ⟨by simpa using hne, strip_strip _, fun c hc => ?_⟩
  simp only [strip, String.toList_ofList] at hc
  exact unbroken_of_mem_lines hline c (trimBoth_subset _ _ hc)

theorem IsLine.filledLines_eq {l : String} (h : IsLine l) : filledLines (l ++ "\n") = [l] := by
  rw [filledLines, lines_of_unbroken h.unbroken, h.filled_cons]
  rfl

theorem filledLines_joinLines_append (ls ms : List String) :
    filledLines (joinLines (ls ++ ms)) =
      filledLines (joinLines ls) ++ filledLines (joinLines ms) := by
  induction ls with
  | nil => rfl
  | cons l ls ih =>
    rw [List.cons_append, joinLines_cons, joinLines_cons, filledLines_append_newline,
      filledLines_append_newline, ih, List.append_assoc]

theorem filledLines_joinLines {ls : List String} (h : ∀ l ∈ ls, IsLine l) :
    filledLines (joinLines ls) = ls := by
  induction ls with
  | nil => rfl
  | cons l ls ih =>
    rw [joinLines_cons, filledLines_append_newline, (h l List.mem_cons_self).filledLines_eq,
      ih fun m hm => h m (List.mem_cons_of_mem l hm)]
    rfl

/-! ## Lines of words -/

theorem IsWord.unbroken {w : String} (h : IsWord w) : Unbroken w := by
  intro c hc
  have hblank := h.no_blank c hc
  simp only [isBlank, isSpace, isLineBreak, Bool.or_eq_false_iff, Bool.and_eq_false_iff,
    decide_eq_false_iff_not, beq_eq_false_iff_ne, ne_eq] at hblank ⊢
  omega

theorem isLine_iff {l : String} :
    IsLine l ↔ l ≠ "" ∧ (∀ c, l.toList.head? = some c → isBlank c = false) ∧
      (∀ c, l.toList.getLast? = some c → isBlank c = false) ∧ Unbroken l := by
  have hstrip : strip l = l ↔ trimBoth isBlank l.toList = l.toList := by
    rw [← String.toList_inj, strip, String.toList_ofList]
  constructor
  · intro h
    obtain ⟨hfirst, hlast⟩ := trimBoth_eq_self_iff.mp (hstrip.mp h.stripped)
    exact ⟨h.ne_empty, hfirst, hlast, h.unbroken⟩
  · rintro ⟨hne, hfirst, hlast, hunbroken⟩
    exact ⟨hne, hstrip.mpr (trimBoth_eq_self_iff.mpr ⟨hfirst, hlast⟩), hunbroken⟩

theorem IsWord.isLine {w : String} (h : IsWord w) : IsLine w :=
  isLine_iff.mpr ⟨h.ne_empty, fun c hc => h.no_blank c (List.mem_of_head? hc),
    fun c hc => h.no_blank c (List.mem_of_getLast? hc), h.unbroken⟩

theorem IsLine.append_space {a b : String} (ha : IsLine a) (hb : IsLine b) :
    IsLine (a ++ " " ++ b) := by
  have hane : a.toList ≠ [] := by simpa using ha.ne_empty
  have hbne : b.toList ≠ [] := by simpa using hb.ne_empty
  have hchars : (a ++ " " ++ b).toList = a.toList ++ ' ' :: b.toList := by simp
  rw [isLine_iff] at ha hb ⊢
  rw [hchars]
  refine ⟨by simp, fun c hc => ?_, fun c hc => ?_, ?_⟩
  · rw [List.head?_append_of_ne_nil _ hane] at hc
    exact ha.2.1 c hc
  · rw [List.getLast?_append_of_ne_nil _ (by simp), List.getLast?_cons_of_ne_nil hbne] at hc
    exact hb.2.2.1 c hc
  · exact (ha.2.2.2.append (by decide)).append hb.2.2.2

end Mailroom.Text
