import Mailroom.Proofs.Level.Lines
import Mailroom.Proofs.Text.Numbered
import Mathlib.Data.List.Nodup

/-!
# The sections of a level

`readSections` goes through the lines once, with the section that is open at the end of its list.
Here the text is described as a whole: its lines are those of sections with different names
(`Describes`). The two agree because each line that is taken adds one line to those of the sections
(`Extends.linesOf_eq`), and because lines are those of one list of sections only
(`linesOf_injective`).
-/

set_option autoImplicit false

namespace Mailroom.Level

open Text

/-! ## Sections and their lines -/

def linesOf (ss : List Section) : List Line :=
  ss.flatMap fun s => .heading s.name :: s.statements.map .statement

def Line.name? : Line → Option String
  | .heading name => some name
  | .statement _ => none

/-- The lines of a text are those of sections with different names. -/
structure Describes (text : String) (ss : List Section) : Prop where
  lines : List.Forall₂ Says (filledLines text) (linesOf ss)
  distinct : (ss.map Section.name).Nodup

theorem linesOf_cons (s : Section) (ss : List Section) :
    linesOf (s :: ss) = .heading s.name :: (s.statements.map .statement ++ linesOf ss) := rfl

theorem head_linesOf_ne_statement {ss : List Section} {s : Statement} {ls : List Line} :
    linesOf ss ≠ .statement s :: ls := by
  cases ss <;> simp [linesOf]

theorem mem_linesOf_statement {ss : List Section} {s : Statement} :
    .statement s ∈ linesOf ss ↔ ∃ t ∈ ss, s ∈ t.statements := by
  simp [linesOf]

theorem filterMap_name?_linesOf (ss : List Section) :
    (linesOf ss).filterMap Line.name? = ss.map Section.name := by
  induction ss with
  | nil => rfl
  | cons s ss ih =>
    have hnone : (s.statements.map Line.statement).filterMap Line.name? = [] := by
      simp [List.filterMap_map, Function.comp_def, Line.name?]
    simp only [linesOf_cons, List.filterMap_cons, Line.name?, List.filterMap_append]
    rw [hnone, ih]
    rfl

theorem append_linesOf_inj {xs ys : List Statement} {ss ts : List Section}
    (h : xs.map Line.statement ++ linesOf ss = ys.map Line.statement ++ linesOf ts) :
    xs = ys ∧ linesOf ss = linesOf ts := by
  induction xs generalizing ys with
  | nil =>
    cases ys with
    | nil => exact ⟨rfl, h⟩
    | cons y ys => exact absurd h head_linesOf_ne_statement
  | cons x xs ih =>
    cases ys with
    | nil => exact absurd h.symm head_linesOf_ne_statement
    | cons y ys =>
      simp only [List.map_cons, List.cons_append, List.cons.injEq, Line.statement.injEq] at h
      obtain ⟨rfl, hrest⟩ := h
      obtain ⟨rfl, hlines⟩ := ih hrest
      exact ⟨rfl, hlines⟩

theorem linesOf_injective : Function.Injective linesOf := by
  intro ss
  induction ss with
  | nil =>
    intro ts h
    cases ts with
    | nil => rfl
    | cons t ts => cases h
  | cons s ss ih =>
    intro ts h
    cases ts with
    | nil => cases h
    | cons t ts =>
      rw [linesOf_cons, linesOf_cons] at h
      obtain ⟨hname, htail⟩ := List.cons.inj h
      obtain ⟨hstatements, hrest⟩ := append_linesOf_inj htail
      obtain ⟨name, statements⟩ := s
      obtain ⟨name', statements'⟩ := t
      cases hname
      cases hstatements
      rw [ih hrest]

/-! ## One line -/

/-- What one line makes of the sections before it. -/
inductive Extends : List Section → Line → List Section → Prop where
  | heading {ss : List Section} {name : String} (hnew : name ∉ ss.map Section.name) :
      Extends ss (.heading name) (ss ++ [⟨name, []⟩])
  | statement {ss : List Section} {current : Section} {s : Statement} :
      Extends (ss ++ [current]) (.statement s)
        (ss ++ [{ current with statements := current.statements ++ [s] }])

theorem addLine_eq_ok_iff {ss ts : List Section} {line : SourceLine} :
    addLine ss line = .ok ts ↔ ∃ l, Says line.text l ∧ Extends ss l ts := by
  cases hh : heading? line.text with
  | some name =>
    simp only [addLine, hh]
    constructor
    · intro h
      split at h
      · cases h
      · rename_i hnew
        cases h
        exact ⟨.heading name, says_heading_iff.mpr hh, .heading (by simpa using hnew)⟩
    · rintro ⟨l, hsays, hext⟩
      cases hext with
      | heading hnew =>
        rw [says_heading_iff, hh] at hsays
        cases hsays
        rw [if_neg (by simpa using hnew)]
      | statement =>
        rw [heading?_of_says_statement hsays] at hh
        cases hh
  | none =>
    simp only [addLine, hh]
    constructor
    · intro h
      split at h
      · cases h
      · rename_i current hlast
        split at h
        · rename_i s hs
          cases h
          obtain ⟨init, rfl⟩ := List.getLast?_eq_some_iff.mp hlast
          rw [List.dropLast_concat]
          exact ⟨.statement s, (readStatement_eq_ok_iff hh).mp hs, .statement⟩
        · cases h
    · rintro ⟨l, hsays, hext⟩
      cases hext with
      | heading hnew =>
        rw [says_heading_iff, hh] at hsays
        cases hsays
      | statement =>
        simp [(readStatement_eq_ok_iff hh).mpr hsays]

theorem Extends.linesOf_eq {ss ts : List Section} {l : Line} (h : Extends ss l ts) :
    linesOf ts = linesOf ss ++ [l] := by
  cases h with
  | heading => simp [linesOf]
  | statement => simp [linesOf]

theorem Extends.distinct {ss ts : List Section} {l : Line} (h : Extends ss l ts)
    (hss : (ss.map Section.name).Nodup) : (ts.map Section.name).Nodup := by
  cases h with
  | heading hnew =>
    rw [List.map_append, List.map_cons, List.map_nil]
    exact List.nodup_append.mpr ⟨hss, by simp, by simpa using hnew⟩
  | statement => simpa using hss

theorem exists_extends {ss ts : List Section} {l : Line} {ls : List Line}
    (h : linesOf ts = linesOf ss ++ l :: ls) (hts : (ts.map Section.name).Nodup) :
    ∃ us, Extends ss l us := by
  cases l with
  | heading name =>
    refine ⟨_, .heading fun hmem => ?_⟩
    have hnames : ts.map Section.name =
        ss.map Section.name ++ name :: ls.filterMap Line.name? := by
      rw [← filterMap_name?_linesOf, h, List.filterMap_append, filterMap_name?_linesOf]
      rfl
    rw [hnames] at hts
    exact List.disjoint_of_nodup_append hts hmem (by simp)
  | statement s =>
    rcases List.eq_nil_or_concat ss with rfl | ⟨init, current, rfl⟩
    · exact absurd h head_linesOf_ne_statement
    · rw [List.concat_eq_append]
      exact ⟨_, .statement⟩

/-! ## All lines -/

-- The sections read so far stay general: the lines left are read onto those of `ss`.
theorem addLines_eq_ok_iff {ls : List SourceLine} {ss ts : List Section}
    (hss : (ss.map Section.name).Nodup) :
    ls.foldlM addLine ss = .ok ts ↔
      ∃ said, List.Forall₂ Says (ls.map SourceLine.text) said ∧ linesOf ts = linesOf ss ++ said ∧
        (ts.map Section.name).Nodup := by
  induction ls generalizing ss with
  | nil =>
    simp only [List.foldlM_nil, pure, Except.pure, Except.ok.injEq, List.map_nil,
      List.forall₂_nil_left_iff]
    constructor
    · rintro rfl
      exact ⟨[], rfl, by simp, hss⟩
    · rintro ⟨said, rfl, hlines, -⟩
      rw [List.append_nil] at hlines
      exact (linesOf_injective hlines).symm
  | cons l ls ih =>
    rw [List.foldlM_cons, List.map_cons, bind_eq_ok_iff]
    constructor
    · rintro ⟨us, hl, hls⟩
      obtain ⟨line, hsays, hext⟩ := addLine_eq_ok_iff.mp hl
      obtain ⟨said, hsaid, hlines, hts⟩ := (ih (hext.distinct hss)).mp hls
      refine ⟨line :: said, .cons hsays hsaid, ?_, hts⟩
      rw [hlines, hext.linesOf_eq, List.append_assoc]
      rfl
    · rintro ⟨said, hsaid, hlines, hts⟩
      cases hsaid with
      | @cons _ line _ said hsays hsaid =>
        -- the grammar only knows the end, so the sections after one line are found from it
        obtain ⟨us, hext⟩ := exists_extends hlines hts
        refine ⟨us, addLine_eq_ok_iff.mpr ⟨line, hsays, hext⟩, ?_⟩
        refine (ih (hext.distinct hss)).mpr ⟨said, hsaid, ?_, hts⟩
        rw [hlines, hext.linesOf_eq, List.append_assoc]
        rfl

/-- **The reader and the grammar agree.** -/
theorem readSections_eq_ok_iff {text : String} {ss : List Section} :
    readSections text = .ok ss ↔ Describes text ss := by
  rw [readSections, addLines_eq_ok_iff (by simp), map_text_sourceLines]
  constructor
  · rintro ⟨said, hsaid, hlines, hss⟩
    have hsame : linesOf ss = said := hlines
    rw [← hsame] at hsaid
    exact ⟨hsaid, hss⟩
  · intro h
    exact ⟨linesOf ss, h.lines, rfl, h.distinct⟩

theorem Describes.exists_says {text : String} {ss : List Section} (h : Describes text ss)
    {s : Section} (hs : s ∈ ss) {statement : Statement} (hmem : statement ∈ s.statements) :
    ∃ line, Says line (.statement statement) := by
  have hmem : .statement statement ∈ linesOf ss := mem_linesOf_statement.mpr ⟨s, hs, hmem⟩
  obtain ⟨line, -, hline⟩ := exists_of_forall₂ (List.Forall₂.flip (R := flip Says) h.lines) hmem
  exact ⟨line, hline⟩

theorem Describes.setting_nonneg {text : String} {ss : List Section} (h : Describes text ss)
    {s : Section} (hs : s ∈ ss) {key : String} {n : Int} (hn : .setting key n ∈ s.statements) :
    0 ≤ n := by
  obtain ⟨line, hline⟩ := h.exists_says hs hn
  exact hline.setting_nonneg

theorem Describes.length_statements_le {text : String} {ss : List Section} (h : Describes text ss)
    {s : Section} (hs : s ∈ ss) : s.statements.length ≤ text.length := by
  have hlines : s.statements.length ≤ (linesOf ss).length := by
    obtain ⟨before, after, rfl⟩ := List.append_of_mem hs
    simp only [linesOf, List.flatMap_append, List.flatMap_cons, List.length_append,
      List.length_cons, List.length_map]
    omega
  rw [← h.lines.length_eq] at hlines
  exact hlines.trans (length_filledLines_le text)

end Mailroom.Level
