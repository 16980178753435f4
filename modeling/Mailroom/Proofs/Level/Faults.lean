import Mailroom.Proofs.Level.Grammar
import Mailroom.Proofs.Level.Quotes

/-!
# Why a text is not a level

The first line that cannot be taken decides (`foldlM_eq_error_iff`), and what it is refused for is
the level's fault. There is one exception. A setting is a name, a sign and digits, whatever their
number, but only 4300 digits are converted, and a setting with more of them fails with the fault of
its number (`ofText_eq_scalar_iff`). The numbers of a case are not excepted: there the same fault is
one of the line.
-/

set_option autoImplicit false

namespace Mailroom

namespace Level

open Text

/-! ## Sections -/

theorem ofSections_eq_error {ss : List Section} {f : LevelFailure}
    (h : ofSections ss = .error f) :
    (sectionNamed? ss "goals" = none ∧ f = .level .missingGoals) ∨
    (∃ goals, sectionNamed? ss "goals" = some goals ∧ f = .level .incompleteGoals ∧
      (firstSetting? "size" goals = none ∨ firstSetting? "speed" goals = none)) ∨
    ∃ title issues, f = .level (.invalid title issues) := by
  unfold ofSections at h
  split at h
  · rename_i hgoals
    cases h
    exact Or.inl ⟨hgoals, rfl⟩
  · rename_i goals hgoals
    refine Or.inr ?_
    split at h
    -- both goals are set, so what is left to fail are the checks
    · rcases bind_eq_error_iff.mp h with hcheck | ⟨g, -, h⟩
      · obtain ⟨issues, rfl⟩ := checked_eq_error (Goals.not_unquotable_check _) hcheck
        exact Or.inr ⟨_, issues, rfl⟩
      · rcases bind_eq_error_iff.mp h with hcases | ⟨tests, -, h⟩
        · obtain ⟨d, -, hd⟩ := exists_of_mapM_eq_error hcases
          obtain ⟨issues, rfl⟩ := checked_eq_error (TestCase.not_unquotable_check d) hd
          exact Or.inr ⟨_, issues, rfl⟩
        · cases h
    · rename_i hmissing
      cases h
      refine Or.inl ⟨goals, hgoals, rfl, ?_⟩
      cases hsize : firstSetting? "size" goals with
      | none => exact Or.inl rfl
      | some size =>
        cases hspeed : firstSetting? "speed" goals with
        | none => exact Or.inr rfl
        | some speed => exact absurd hspeed (hmissing size speed hsize)

/-! ## Lines -/

/-- The line is a setting with this many digits, which are too many. -/
inductive Overlong : String → Nat → Prop where
  | setting {key before after digits : String} (hk : IsName key)
      (hb : ∀ c ∈ before.toList, isBlank c = true) (ha : ∀ c ∈ after.toList, isBlank c = true)
      (hd : ∀ c ∈ digits.toList, isDigit c = true) (hlong : 4300 < digits.length) :
      Overlong (key ++ before ++ "=" ++ after ++ digits) digits.length

theorem overlong_iff {line : String} {n : Nat} :
    Overlong line n ↔ ∃ key digits, setting? line.toList = some (key, digits) ∧
      digits.length = n ∧ 4300 < n := by
  constructor
  · intro h
    cases h with
    | @setting key before after digits hk hb ha hd hlong =>
      have hne : digits.toList ≠ [] := by
        intro hnil
        rw [← String.length_toList, hnil] at hlong
        cases hlong
      exact ⟨key.toList, digits.toList, setting?_eq_some_iff.mpr
        ⟨⟨by simpa using hk.ne_empty, hk.letters⟩, ⟨hne, hd⟩, before.toList, after.toList, hb, ha,
          by simp⟩, String.length_toList, hlong⟩
  · rintro ⟨key, digits, hline, rfl, hlong⟩
    obtain ⟨⟨hkey, hletters⟩, ⟨-, hd⟩, before, after, hb, ha, hcs⟩ :=
      setting?_eq_some_iff.mp hline
    have hstring : line = String.ofList key ++ String.ofList before ++ "=" ++
        String.ofList after ++ String.ofList digits := by
      rw [← String.toList_inj, hcs]
      simp
    rw [hstring, ← String.length_ofList]
    exact .setting ⟨by simpa using hkey, by simpa using hletters⟩ (by simpa using hb)
      (by simpa using ha) (by simpa using hd) (by simpa using hlong)

theorem readNumbers_ne_scalar {line : Nat} {cs : List Char} {e : ScalarError} :
    readNumbers line cs ≠ .error (.scalar e) := by
  intro h
  obtain ⟨word, -, hword⟩ := exists_of_mapM_eq_error h
  split at hword <;> cases hword

theorem readStatement_eq_scalar_iff {line : Nat} {text : String} {e : ScalarError}
    (hh : heading? text = none) :
    readStatement line text = .error (.scalar e) ↔ ∃ n, Overlong text n ∧ e = .digitLimit n := by
  simp only [overlong_iff]
  cases hsetting : setting? text.toList with
  | some found =>
    obtain ⟨key, digits⟩ := found
    obtain ⟨-, ⟨hne, hdigits⟩, -⟩ := setting?_eq_some_iff.mp hsetting
    obtain ⟨ds, hds, hlen⟩ := exists_digits hne hdigits
    -- a setting has nothing but digits behind its sign, so it can only be too long
    simp only [readStatement, lineForm?, hh, hsetting, hds.readInteger_eq, hlen]
    by_cases hlong : 4300 < digits.length
    · simp [hlong, ScalarError.ofNumeral, eq_comm]
    · simp [hlong]
  | none =>
    simp only [reduceCtorEq, false_and, exists_false, iff_false]
    intro h
    simp only [readStatement, lineForm?, hh, hsetting] at h
    cases hcase : case? text.toList with
    | none =>
      rw [hcase] at h
      cases h
    | some found =>
      obtain ⟨input, output⟩ := found
      simp only [hcase, Option.map_some] at h
      rcases bind_eq_error_iff.mp h with hi | ⟨is, -, h⟩
      · exact readNumbers_ne_scalar hi
      · rcases bind_eq_error_iff.mp h with ho | ⟨os, -, h⟩
        · exact readNumbers_ne_scalar ho
        · cases h

theorem Overlong.heading?_eq_none {line : String} {n : Nat} (h : Overlong line n) :
    heading? line = none := by
  cases h with
  | setting => exact heading?_eq_none_of_mem (c := '=') (by simp) (by decide) (by decide)

theorem addLine_eq_scalar_iff {ss : List Section} {line : SourceLine} {e : ScalarError} :
    addLine ss line = .error (.scalar e) ↔
      ss ≠ [] ∧ ∃ n, Overlong line.text n ∧ e = .digitLimit n := by
  cases hh : heading? line.text with
  | some name =>
    simp only [addLine, hh]
    constructor
    · intro h
      split at h <;> cases h
    · rintro ⟨-, n, hover, -⟩
      rw [hover.heading?_eq_none] at hh
      cases hh
  | none =>
    rw [← @readStatement_eq_scalar_iff line.number _ _ hh]
    rcases List.eq_nil_or_concat ss with rfl | ⟨init, current, rfl⟩
    · simp [addLine, hh]
    · simp only [addLine, hh, List.concat_eq_append, List.getLast?_concat]
      cases readStatement line.number line.text with
      | ok s => simp
      | error f => simp

/-! ## Texts -/

/-- After lines that are those of sections, with one of them open, there is a line of a setting with
this many digits, which are too many. -/
def HasOverlong (text : String) (n : Nat) : Prop :=
  ∃ before line after ss, filledLines text = before ++ line :: after ∧ Overlong line n ∧
    ss ≠ [] ∧ List.Forall₂ Says before (linesOf ss) ∧ (ss.map Section.name).Nodup

theorem readSections_eq_scalar_iff {text : String} {e : ScalarError} :
    readSections text = .error (.scalar e) ↔ ∃ n, HasOverlong text n ∧ e = .digitLimit n := by
  rw [readSections, foldlM_eq_error_iff]
  constructor
  · rintro ⟨before, l, after, ss, hls, hbefore, hl⟩
    obtain ⟨hne, n, hover, rfl⟩ := addLine_eq_scalar_iff.mp hl
    obtain ⟨said, hsaid, hlines, hss⟩ := (addLines_eq_ok_iff (by simp)).mp hbefore
    have hsame : linesOf ss = said := hlines
    refine ⟨n, ⟨before.map SourceLine.text, l.text, after.map SourceLine.text, ss, ?_, hover,
      hne, hsame ▸ hsaid, hss⟩, rfl⟩
    rw [← map_text_sourceLines, hls, List.map_append, List.map_cons]
  · rintro ⟨n, ⟨before, line, after, ss, hls, hover, hne, hsaid, hss⟩, rfl⟩
    rw [← map_text_sourceLines, List.map_eq_append_iff] at hls
    obtain ⟨before', rest, hnumbered, rfl, hrest⟩ := hls
    obtain ⟨l, after', rfl, rfl, rfl⟩ := List.map_eq_cons_iff.mp hrest
    exact ⟨before', l, after', ss, hnumbered,
      (addLines_eq_ok_iff (by simp)).mpr ⟨linesOf ss, hsaid, rfl, hss⟩,
      addLine_eq_scalar_iff.mpr ⟨hne, n, hover, rfl⟩⟩

/-- The one fault of a text that is not the level's. -/
theorem ofText_eq_scalar_iff {text : String} {e : ScalarError} :
    ofText text = .error (.scalar e) ↔ ∃ n, HasOverlong text n ∧ e = .digitLimit n := by
  rw [← readSections_eq_scalar_iff, ofText]
  split
  · rename_i ss hss
    constructor
    · intro h
      rcases ofSections_eq_error h with ⟨-, hf⟩ | ⟨goals, -, hf, -⟩ | ⟨title, issues, hf⟩
      all_goals cases hf
    · intro h
      rw [hss] at h
      cases h
  · rename_i f hf
    rw [hf]
    simp

end Level

end Mailroom
