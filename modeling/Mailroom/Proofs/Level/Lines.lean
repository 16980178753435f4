import Mailroom.Level.Text
import Mailroom.Proofs.Level.Check
import Mailroom.Proofs.Text.Lines
import Mailroom.Proofs.Text.Numerals
import Mailroom.Proofs.Text.Words

/-!
# What a line of a level says

A line is a heading, a setting or a case, and `Says` gives the three forms as they are written. The
scanners cut a line with `takeWhile` and `dropWhile`; that they find the parts of a form is because
what follows a part never starts with a character of it. No line has two forms, so the order in
which they are tried does not matter.
-/

set_option autoImplicit false

namespace Mailroom.Level

open Text

/-! ## Rows of numbers -/

/-- Numerals with blanks between them, and blanks allowed at both ends. -/
inductive Row : List Char → List Int → Prop where
  | done {blanks : List Char} (hb : ∀ c ∈ blanks, isBlank c = true) : Row blanks []
  | next {blanks numeral rest : List Char} {n : Int} {ns : List Int}
      (hb : ∀ c ∈ blanks, isBlank c = true) (hn : Numeral numeral n)
      (hend : ∀ c ∈ rest.head?, isBlank c = true) (hr : Row rest ns) :
      Row (blanks ++ (numeral ++ rest)) (n :: ns)

theorem row_iff {cs : List Char} {ns : List Int} :
    Row cs ns ↔ List.Forall₂ Numeral (wordChars cs) ns := by
  constructor
  · intro h
    induction h with
    | done hb =>
      rw [(Spaced.done hb).wordChars_eq]
      exact .nil
    | next hb hn hend hr ih =>
      rw [wordChars_blanks_append hb, wordChars_word_append hn.ne_nil hn.solid hend]
      exact .cons hn ih
  · intro h
    have hcs := spaced_wordChars cs
    generalize wordChars cs = ws at h hcs
    induction hcs generalizing ns with
    | done hb =>
      cases h
      exact .done hb
    | next hb _ _ hend _ ih =>
      obtain ⟨n, ns', hn, hns, rfl⟩ := List.forall₂_cons_left_iff.mp h
      exact .next hb hn hend (ih hns)

theorem readNumbers_eq_ok_iff {line : Nat} {cs : List Char} {ns : List Int} :
    readNumbers line cs = .ok ns ↔ Row cs ns := by
  rw [row_iff, readNumbers, mapM_eq_ok_iff]
  have hsolid := (spaced_wordChars cs).solid
  generalize wordChars cs = ws at hsolid
  induction ws generalizing ns with
  | nil => simp
  | cons w ws ih =>
    rw [List.forall₂_cons_left_iff, List.forall₂_cons_left_iff]
    refine exists_congr fun n => exists_congr fun rest => and_congr ?_
      (and_congr (ih fun v hv => hsolid v (by simp [hv])) Iff.rfl)
    rw [← readInteger_word_iff (hsolid w (by simp)).2]
    cases readInteger 10 w <;> simp

/-! ## The parts of a line -/

theorem dropWhile_blanks_append {blanks cs : List Char} {c : Char}
    (hb : ∀ b ∈ blanks, isBlank b = true) (hc : isBlank c = false) :
    (blanks ++ c :: cs).dropWhile isBlank = c :: cs := by
  rw [List.dropWhile_append_of_pos hb, List.dropWhile_cons_of_neg (by simp [hc])]

theorem setting?_eq_some_iff {cs key digits : List Char} :
    setting? cs = some (key, digits) ↔
      (key ≠ [] ∧ ∀ c ∈ key, isLetter c = true) ∧ (digits ≠ [] ∧ ∀ c ∈ digits, isDigit c = true) ∧
        ∃ before after, (∀ c ∈ before, isBlank c = true) ∧ (∀ c ∈ after, isBlank c = true) ∧
          cs = key ++ (before ++ '=' :: (after ++ digits)) := by
  constructor
  · intro h
    simp only [setting?] at h
    split at h
    · rename_i rest hrest
      simp only [Option.ite_none_right_eq_some, Bool.and_eq_true, Bool.not_eq_true',
        List.isEmpty_eq_false_iff, List.all_eq_true, Option.some.injEq, Prod.mk.injEq] at h
      obtain ⟨⟨⟨hkey, hne⟩, hdigits⟩, rfl, rfl⟩ := h
      refine ⟨⟨hkey, fun c hc => List.mem_takeWhile_imp hc⟩, ⟨hne, hdigits⟩,
        (cs.dropWhile isLetter).takeWhile isBlank, rest.takeWhile isBlank,
        fun c hc => List.mem_takeWhile_imp hc, fun c hc => List.mem_takeWhile_imp hc, ?_⟩
      rw [List.takeWhile_append_dropWhile, ← hrest, List.takeWhile_append_dropWhile,
        List.takeWhile_append_dropWhile]
    · cases h
  · rintro ⟨⟨hkey, hletters⟩, ⟨hne, hdigits⟩, before, after, hb, ha, rfl⟩
    -- The key ends where a blank or the sign stands, and neither is a letter.
    have hstop : ∀ tail, (before ++ '=' :: tail).takeWhile isLetter = [] ∧
        (before ++ '=' :: tail).dropWhile isLetter = before ++ '=' :: tail := by
      intro tail
      cases before with
      | nil =>
        have hsign : isLetter '=' = false := by decide
        simp [hsign]
      | cons b bs =>
        have hletter : isLetter b = false := by
          by_contra hl
          have hblank := isBlank_of_isLetter (Bool.eq_true_of_not_eq_false hl)
          rw [hb b (by simp)] at hblank
          cases hblank
        simp [hletter]
    obtain ⟨d, ds, rfl⟩ := List.exists_cons_of_ne_nil hne
    have hd : isBlank d = false := isBlank_of_isDigit (hdigits d (by simp))
    have hsign : isBlank '=' = false := by decide
    simp only [setting?]
    rw [List.takeWhile_append_of_pos hletters, List.dropWhile_append_of_pos hletters,
      (hstop _).1, (hstop _).2, dropWhile_blanks_append hb hsign, List.append_nil]
    simp only [dropWhile_blanks_append ha hd]
    simp [hkey, List.all_eq_true.mpr hdigits]

theorem bracketed?_eq_some_iff {cs part rest : List Char} :
    bracketed? cs = some (part, rest) ↔
      (∀ c ∈ part, insideBrackets c = true) ∧ cs = '[' :: (part ++ ']' :: rest) := by
  constructor
  · intro h
    unfold bracketed? at h
    split at h
    · rename_i cs
      split at h
      · rename_i tail htail
        simp only [Option.some.injEq, Prod.mk.injEq] at h
        obtain ⟨rfl, rfl⟩ := h
        refine ⟨fun c hc => List.mem_takeWhile_imp hc, ?_⟩
        rw [← htail, List.takeWhile_append_dropWhile]
      · cases h
    · cases h
  · rintro ⟨hpart, rfl⟩
    have hclose : insideBrackets ']' = false := by decide
    simp only [bracketed?]
    rw [List.takeWhile_append_of_pos hpart, List.dropWhile_append_of_pos hpart]
    simp [hclose]

theorem case?_eq_some_iff {cs input output : List Char} :
    case? cs = some (input, output) ↔
      (∀ c ∈ input, insideBrackets c = true) ∧ (∀ c ∈ output, insideBrackets c = true) ∧
        ∃ before after, (∀ c ∈ before, isBlank c = true) ∧ (∀ c ∈ after, isBlank c = true) ∧
          cs = '[' :: (input ++ ']' ::
            (before ++ '-' :: '>' :: (after ++ '[' :: (output ++ [']'])))) := by
  constructor
  · intro h
    unfold case? at h
    split at h
    · cases h
    · rename_i first rest hfirst
      obtain ⟨hinput, rfl⟩ := bracketed?_eq_some_iff.mp hfirst
      split at h
      · rename_i tail htail
        split at h
        · rename_i second hsecond
          simp only [Option.some.injEq, Prod.mk.injEq] at h
          obtain ⟨rfl, rfl⟩ := h
          obtain ⟨houtput, htail'⟩ := bracketed?_eq_some_iff.mp hsecond
          -- the blanks around the arrow are those that were dropped on the way
          refine ⟨hinput, houtput, rest.takeWhile isBlank, tail.takeWhile isBlank,
            fun c hc => List.mem_takeWhile_imp hc, fun c hc => List.mem_takeWhile_imp hc, ?_⟩
          rw [← htail', List.takeWhile_append_dropWhile, ← htail,
            List.takeWhile_append_dropWhile]
        · cases h
      · cases h
  · rintro ⟨hinput, houtput, before, after, hb, ha, rfl⟩
    have hdash : isBlank '-' = false := by decide
    have hopen : isBlank '[' = false := by decide
    simp only [case?, bracketed?_eq_some_iff.mpr ⟨hinput, rfl⟩, dropWhile_blanks_append hb hdash,
      dropWhile_blanks_append ha hopen, bracketed?_eq_some_iff.mpr ⟨houtput, rfl⟩]

/-! ## Lines -/

inductive Line where
  | heading (name : String)
  | statement (s : Statement)
  deriving DecidableEq, Repr

/-- What a line says: `name:`, `name = digits`, or `[ numbers ] -> [ numbers ]`. -/
inductive Says : String → Line → Prop where
  | heading {name : String} (hn : IsName name) : Says (name ++ ":") (.heading name)
  | setting {key before after digits : String} {n : Int} (hk : IsName key)
      (hb : ∀ c ∈ before.toList, isBlank c = true) (ha : ∀ c ∈ after.toList, isBlank c = true)
      (hd : ∀ c ∈ digits.toList, isDigit c = true) (hn : Numeral digits.toList n) :
      Says (key ++ before ++ "=" ++ after ++ digits) (.statement (.setting key n))
  | case {input before after output : String} {is os : List Int}
      (hi : ∀ c ∈ input.toList, insideBrackets c = true)
      (ho : ∀ c ∈ output.toList, insideBrackets c = true)
      (hb : ∀ c ∈ before.toList, isBlank c = true) (ha : ∀ c ∈ after.toList, isBlank c = true)
      (his : Row input.toList is) (hos : Row output.toList os) :
      Says ("[" ++ input ++ "]" ++ before ++ "->" ++ after ++ "[" ++ output ++ "]")
        (.statement (.case is os))

theorem says_heading_iff {line name : String} :
    Says line (.heading name) ↔ heading? line = some name := by
  rw [heading?_eq_some_iff]
  constructor
  · intro h
    cases h with
    | heading hn => exact ⟨hn, rfl⟩
  · rintro ⟨hn, rfl⟩
    exact .heading hn

theorem says_setting_iff {line key : String} {n : Int} :
    Says line (.statement (.setting key n)) ↔
      ∃ digits, setting? line.toList = some (key.toList, digits) ∧
        readInteger 10 digits = .ok n := by
  constructor
  · intro h
    cases h with
    | @setting _ before after digits _ hk hb ha hd hn =>
      refine ⟨digits.toList, setting?_eq_some_iff.mpr ⟨⟨by simpa using hk.ne_empty, hk.letters⟩,
        ⟨hn.ne_nil, hd⟩, before.toList, after.toList, hb, ha, by simp⟩, ?_⟩
      exact (readInteger_word_iff hn.solid).mpr hn
  · rintro ⟨digits, hline, hn⟩
    obtain ⟨⟨hkey, hletters⟩, ⟨-, hd⟩, before, after, hb, ha, hcs⟩ :=
      setting?_eq_some_iff.mp hline
    have hnum := (readInteger_word_iff fun c hc => isBlank_of_isDigit (hd c hc)).mp hn
    have hstring : line = key ++ String.ofList before ++ "=" ++ String.ofList after ++
        String.ofList digits := by
      rw [← String.toList_inj, hcs]
      simp
    rw [hstring]
    exact .setting ⟨by simpa using hkey, hletters⟩ (by simpa using hb) (by simpa using ha)
      (by simpa using hd) (by simpa using hnum)

theorem says_case_iff {line : String} {is os : List Int} :
    Says line (.statement (.case is os)) ↔
      ∃ input output, case? line.toList = some (input, output) ∧ Row input is ∧ Row output os := by
  constructor
  · intro h
    cases h with
    | @case input before after output _ _ hi ho hb ha his hos =>
      exact ⟨input.toList, output.toList, case?_eq_some_iff.mpr
        ⟨hi, ho, before.toList, after.toList, hb, ha, by simp⟩, his, hos⟩
  · rintro ⟨input, output, hline, his, hos⟩
    obtain ⟨hi, ho, before, after, hb, ha, hcs⟩ := case?_eq_some_iff.mp hline
    have hstring : line = "[" ++ String.ofList input ++ "]" ++ String.ofList before ++ "->" ++
        String.ofList after ++ "[" ++ String.ofList output ++ "]" := by
      rw [← String.toList_inj, hcs]
      simp
    rw [hstring]
    exact .case (by simpa using hi) (by simpa using ho) (by simpa using hb) (by simpa using ha)
      (by simpa using his) (by simpa using hos)

theorem Says.setting_nonneg {line key : String} {n : Int}
    (h : Says line (.statement (.setting key n))) : 0 ≤ n := by
  cases h with
  | setting hk hb ha hd hn => exact hn.nonneg hd

/-! ## One form for a line -/

theorem heading?_eq_none_of_mem {line : String} {c : Char} (hc : c ∈ line.toList)
    (hletter : isLetter c = false) (hcolon : c ≠ ':') : heading? line = none := by
  rw [Option.eq_none_iff_forall_ne_some]
  intro name h
  obtain ⟨hn, rfl⟩ := heading?_eq_some_iff.mp h
  rw [String.toList_append, List.mem_append] at hc
  rcases hc with hc | hc
  · rw [hn.letters c hc] at hletter
    cases hletter
  · exact hcolon (by simpa using hc)

theorem heading?_of_says_statement {line : String} {s : Statement}
    (h : Says line (.statement s)) : heading? line = none := by
  cases h with
  | setting => exact heading?_eq_none_of_mem (c := '=') (by simp) (by decide) (by decide)
  | case => exact heading?_eq_none_of_mem (c := '[') (by simp) (by decide) (by decide)

theorem setting?_of_case? {cs input output : List Char} (h : case? cs = some (input, output)) :
    setting? cs = none := by
  obtain ⟨-, -, before, after, -, -, rfl⟩ := case?_eq_some_iff.mp h
  rw [Option.eq_none_iff_forall_ne_some]
  rintro ⟨key, digits⟩ hsetting
  obtain ⟨⟨hne, hletters⟩, -, _, _, -, -, hcs⟩ := setting?_eq_some_iff.mp hsetting
  obtain ⟨k, key, rfl⟩ := List.exists_cons_of_ne_nil hne
  have hk : '[' = k := (List.cons.inj hcs).1
  have hletter := hletters k (by simp)
  rw [← hk] at hletter
  exact absurd hletter (by decide)

theorem readStatement_eq_ok_iff {line : Nat} {text : String} {s : Statement}
    (hh : heading? text = none) :
    readStatement line text = .ok s ↔ Says text (.statement s) := by
  cases hsetting : setting? text.toList with
  | some found =>
    obtain ⟨key, digits⟩ := found
    simp only [readStatement, lineForm?, hh, hsetting]
    cases s with
    | setting name n =>
      rw [says_setting_iff, hsetting]
      constructor
      · intro h
        split at h
        · rename_i m hm
          cases h
          exact ⟨digits, by simp, hm⟩
        · cases h
      · rintro ⟨digits', hsome, hn⟩
        cases hsome
        simp [hn]
    | case is os =>
      rw [says_case_iff]
      constructor
      · intro h
        split at h <;> cases h
      · rintro ⟨input, output, hcase, -⟩
        rw [setting?_of_case? hcase] at hsetting
        cases hsetting
  | none =>
    -- a line that is no setting may still be a case; that no line is both is used above
    have hnosetting : ∀ key n, ¬ Says text (.statement (.setting key n)) := by
      intro key n h
      obtain ⟨digits, hsome, -⟩ := says_setting_iff.mp h
      rw [hsetting] at hsome
      cases hsome
    cases hcase : case? text.toList with
    | some found =>
      obtain ⟨input, output⟩ := found
      simp only [readStatement, lineForm?, hh, hsetting, hcase, Option.map_some]
      constructor
      · intro h
        obtain ⟨is, hi, h⟩ := bind_eq_ok_iff.mp h
        obtain ⟨os, ho, h⟩ := bind_eq_ok_iff.mp h
        cases h
        exact says_case_iff.mpr ⟨input, output, hcase, readNumbers_eq_ok_iff.mp hi,
          readNumbers_eq_ok_iff.mp ho⟩
      · intro h
        cases s with
        | setting key n => exact absurd h (hnosetting key n)
        | case is os =>
          obtain ⟨input', output', hcase', hi, ho⟩ := says_case_iff.mp h
          rw [hcase] at hcase'
          cases hcase'
          rw [readNumbers_eq_ok_iff.mpr hi, readNumbers_eq_ok_iff.mpr ho]
          rfl
    | none =>
      simp only [readStatement, lineForm?, hh, hsetting, hcase, Option.map_none, reduceCtorEq,
        false_iff]
      intro h
      cases s with
      | setting key n => exact hnosetting key n h
      | case is os =>
        obtain ⟨input, output, hsome, -⟩ := says_case_iff.mp h
        rw [hcase] at hsome
        cases hsome

end Mailroom.Level
