import Mailroom.Text.Name
import Mailroom.Text.Space
import Mathlib.Data.List.TakeWhile

/-!
# Words and headings

A text without blanks is one word (`IsWord`), and a text can be cut at a blank and its parts read
apart. The words of any text are such words, and the text is these words with blanks around them
(`words_eq_iff`). A name has no blanks in it, and a heading is a name with a colon: `heading?` reads
back the one name there can be.
-/

set_option autoImplicit false

namespace Mailroom.Text

theorem splitWords_cons_of_blank {c : Char} (hc : isBlank c = true) (cs : List Char) :
    splitWords (c :: cs) = ([], wordChars cs) := by
  simp [splitWords, hc, wordChars]

theorem splitWords_cons_of_solid {c : Char} (hc : isBlank c = false) (cs : List Char) :
    splitWords (c :: cs) = (c :: (splitWords cs).1, (splitWords cs).2) := by
  simp [splitWords, hc]

theorem isBlank_of_mem_space : ∀ c ∈ " ".toList, isBlank c = true := by
  intro c hc
  obtain rfl : c = ' ' := by simpa using hc
  decide

/-- A text without blanks, of one character at least. -/
structure IsWord (w : String) : Prop where
  ne_empty : w ≠ ""
  no_blank : ∀ c ∈ w.toList, isBlank c = false

instance (w : String) : Decidable (IsWord w) :=
  decidable_of_iff (w ≠ "" ∧ w.toList.all fun c => !isBlank c)
    ⟨fun h => ⟨h.1, by simpa using h.2⟩, fun h => ⟨h.ne_empty, by simpa using h.no_blank⟩⟩

/-! ## Words and the blanks around them

`splitWords` puts words together character by character. `Spaced` says how the text stands to the
words that come out, and two texts with the same words differ in their blanks only. What the words
of a text are like is read off it. -/

/-- Words with blanks between them, and blanks allowed at both ends. -/
inductive Spaced : List Char → List (List Char) → Prop where
  | done {blanks : List Char} (hb : ∀ c ∈ blanks, isBlank c = true) : Spaced blanks []
  | next {blanks w rest : List Char} {ws : List (List Char)}
      (hb : ∀ c ∈ blanks, isBlank c = true) (hne : w ≠ []) (hw : ∀ c ∈ w, isBlank c = false)
      (hend : ∀ c ∈ rest.head?, isBlank c = true) (hr : Spaced rest ws) :
      Spaced (blanks ++ (w ++ rest)) (w :: ws)

theorem Spaced.blanks_append {blanks cs : List Char} {ws : List (List Char)}
    (hblanks : ∀ c ∈ blanks, isBlank c = true) (h : Spaced cs ws) : Spaced (blanks ++ cs) ws := by
  cases h with
  | done hb => exact .done (List.forall_mem_append.mpr ⟨hblanks, hb⟩)
  | next hb hne hw hend hr =>
    rw [← List.append_assoc]
    exact .next (List.forall_mem_append.mpr ⟨hblanks, hb⟩) hne hw hend hr

theorem Spaced.cons_blank {c : Char} {cs : List Char} {ws : List (List Char)}
    (hc : isBlank c = true) (h : Spaced cs ws) : Spaced (c :: cs) ws :=
  h.blanks_append (List.forall_mem_singleton.mpr hc)

theorem Spaced.append_blank {c : Char} {a b : List Char} {ws vs : List (List Char)}
    (hc : isBlank c = true) (ha : Spaced a ws) (hb : Spaced b vs) :
    Spaced (a ++ c :: b) (ws ++ vs) := by
  induction ha with
  | done hblanks => exact (hb.cons_blank hc).blanks_append hblanks
  | @next _ _ rest _ hblanks hne hw hend _ ih =>
    rw [List.append_assoc, List.append_assoc]
    refine .next hblanks hne hw ?_ ih
    -- the blank ends the last word where nothing is left behind it
    cases rest with
    | nil => simpa using hc
    | cons d rest => exact hend

theorem Spaced.closeWord {w rest : List Char} {ws : List (List Char)}
    (hw : ∀ c ∈ w, isBlank c = false) (hend : ∀ c ∈ rest.head?, isBlank c = true)
    (hr : Spaced rest ws) : Spaced (w ++ rest) (closeWord w ws) := by
  unfold Text.closeWord
  split
  · rename_i hempty
    rw [List.isEmpty_iff.mp hempty]
    exact hr
  · rename_i hne
    exact @Spaced.next [] w rest ws (by simp) (by simpa using hne) hw hend hr

theorem exists_spaced_splitWords (cs : List Char) :
    ∃ rest, cs = (splitWords cs).1 ++ rest ∧ (∀ c ∈ (splitWords cs).1, isBlank c = false) ∧
      (∀ c ∈ rest.head?, isBlank c = true) ∧ Spaced rest (splitWords cs).2 := by
  induction cs with
  | nil => exact ⟨[], rfl, by simp [splitWords], by simp, .done (by simp)⟩
  | cons c cs ih =>
    obtain ⟨rest, hcs, hword, hend, hrest⟩ := ih
    cases hc : isBlank c with
    | true =>
      -- the word that was open ends here, and all of the text is behind the empty word
      have hclosed := Spaced.closeWord hword hend hrest
      rw [← hcs] at hclosed
      rw [splitWords_cons_of_blank hc]
      exact ⟨c :: cs, rfl, by simp, by simpa using hc, hclosed.cons_blank hc⟩
    | false =>
      rw [splitWords_cons_of_solid hc]
      exact ⟨rest, congrArg (c :: ·) hcs, List.forall_mem_cons.mpr ⟨hc, hword⟩, hend, hrest⟩

theorem spaced_wordChars (cs : List Char) : Spaced cs (wordChars cs) := by
  obtain ⟨rest, hcs, hword, hend, hrest⟩ := exists_spaced_splitWords cs
  have hclosed := Spaced.closeWord hword hend hrest
  rwa [← hcs] at hclosed

theorem wordChars_blanks_append {blanks : List Char} (hb : ∀ c ∈ blanks, isBlank c = true)
    (cs : List Char) : wordChars (blanks ++ cs) = wordChars cs := by
  induction blanks with
  | nil => rfl
  | cons b bs ih =>
    rw [List.cons_append, wordChars, splitWords_cons_of_blank (hb b (by simp))]
    exact ih fun c hc => hb c (by simp [hc])

theorem splitWords_of_end {rest : List Char} (hend : ∀ c ∈ rest.head?, isBlank c = true) :
    splitWords rest = ([], wordChars rest) := by
  cases rest with
  | nil => rfl
  | cons b r =>
    have hb : isBlank b = true := hend b rfl
    rw [wordChars, splitWords_cons_of_blank hb]
    rfl

theorem splitWords_append_of_solid {w : List Char} (hw : ∀ c ∈ w, isBlank c = false)
    (rest : List Char) :
    splitWords (w ++ rest) = (w ++ (splitWords rest).1, (splitWords rest).2) := by
  induction w with
  | nil => rfl
  | cons c w ih =>
    rw [List.cons_append, splitWords_cons_of_solid (hw c (by simp)),
      ih fun d hd => hw d (by simp [hd])]
    rfl

theorem wordChars_word_append {w rest : List Char} (hne : w ≠ [])
    (hw : ∀ c ∈ w, isBlank c = false) (hend : ∀ c ∈ rest.head?, isBlank c = true) :
    wordChars (w ++ rest) = w :: wordChars rest := by
  rw [wordChars, splitWords_append_of_solid hw, splitWords_of_end hend]
  simp [closeWord, hne]

theorem Spaced.wordChars_eq {cs : List Char} {ws : List (List Char)} (h : Spaced cs ws) :
    wordChars cs = ws := by
  induction h with
  | @done blanks hb =>
    have hnil := wordChars_blanks_append hb []
    rwa [List.append_nil] at hnil
  | next hb hne hw hend _ ih =>
    rw [wordChars_blanks_append hb, wordChars_word_append hne hw hend, ih]

/-- **The words of a text are what stands between its blanks.** -/
theorem words_eq_iff {s : String} {ws : List String} :
    words s = ws ↔ Spaced s.toList (ws.map String.toList) := by
  constructor
  · rintro rfl
    simpa [words, Function.comp_def] using spaced_wordChars s.toList
  · intro h
    simp [words, h.wordChars_eq, Function.comp_def]

theorem IsWord.words_eq {w : String} (h : IsWord w) : words w = [w] := by
  have hne : w.toList ≠ [] := by simpa using h.ne_empty
  have hspaced := Spaced.closeWord h.no_blank (by simp) (@Spaced.done [] (by simp))
  exact words_eq_iff.mpr (by simpa [closeWord, hne] using hspaced)

theorem words_append_space (a b : String) : words (a ++ " " ++ b) = words a ++ words b := by
  have ha : Spaced a.toList ((words a).map String.toList) := words_eq_iff.mp rfl
  have hb : Spaced b.toList ((words b).map String.toList) := words_eq_iff.mp rfl
  have hspace : isBlank ' ' = true := by decide
  exact words_eq_iff.mpr (by simpa using ha.append_blank hspace hb)

theorem Spaced.solid {cs : List Char} {ws : List (List Char)} (h : Spaced cs ws) :
    ∀ w ∈ ws, w ≠ [] ∧ ∀ c ∈ w, isBlank c = false := by
  induction h with
  | done hb => simp
  | next hb hne hw hend _ ih => exact List.forall_mem_cons.mpr ⟨⟨hne, hw⟩, ih⟩

theorem isWord_of_mem_words {s w : String} (h : w ∈ words s) : IsWord w := by
  obtain ⟨cs, hcs, rfl⟩ := List.mem_map.mp h
  obtain ⟨hne, hblank⟩ := (spaced_wordChars s.toList).solid cs hcs
  exact ⟨by simpa using hne, by simpa using hblank⟩

/-! ## Names -/

/-- A run of letters, of one at least. -/
structure IsName (name : String) : Prop where
  ne_empty : name ≠ ""
  letters : ∀ c ∈ name.toList, isLetter c = true

instance (name : String) : Decidable (IsName name) :=
  decidable_of_iff (name ≠ "" ∧ name.toList.all isLetter)
    ⟨fun h => ⟨h.1, by simpa using h.2⟩, fun h => ⟨h.ne_empty, by simpa using h.letters⟩⟩

theorem isBlank_of_isLetter {c : Char} (h : isLetter c = true) : isBlank c = false := by
  have hc : 65 ≤ c.toNat ∧ c.toNat ≤ 122 := by
    simp only [isLetter, Bool.or_eq_true, Bool.and_eq_true, decide_eq_true_eq, Char.le_def,
      UInt32.le_iff_toNat_le] at h
    change ((97 ≤ c.toNat ∧ c.toNat ≤ 122) ∨ (65 ≤ c.toNat ∧ c.toNat ≤ 90)) at h
    omega
  simp only [isBlank, isSpace, Bool.or_eq_false_iff, Bool.and_eq_false_iff, decide_eq_false_iff_not,
    beq_eq_false_iff_ne, ne_eq]
  omega

theorem headingName?_eq_some_iff {cs name : List Char} :
    headingName? cs = some name ↔
      name ≠ [] ∧ (∀ c ∈ name, isLetter c = true) ∧ cs = name ++ [':'] := by
  unfold headingName?
  constructor
  · intro h
    simp only [Option.ite_none_right_eq_some, Bool.and_eq_true, Bool.not_eq_true',
      List.isEmpty_eq_false_iff, beq_iff_eq, Option.some.injEq] at h
    obtain ⟨⟨hne, hrest⟩, rfl⟩ := h
    refine ⟨hne, fun c hc => List.mem_takeWhile_imp hc, ?_⟩
    rw [← hrest, List.takeWhile_append_dropWhile]
  · rintro ⟨hne, hall, rfl⟩
    have hcolon : isLetter ':' = false := by decide
    rw [List.takeWhile_append_of_pos hall, List.dropWhile_append_of_pos hall]
    simp [hcolon, hne]

theorem heading?_eq_some_iff {line name : String} :
    heading? line = some name ↔ IsName name ∧ line = name ++ ":" := by
  unfold heading?
  rw [Option.map_eq_some_iff]
  constructor
  · rintro ⟨cs, hcs, rfl⟩
    obtain ⟨hne, hall, hline⟩ := headingName?_eq_some_iff.mp hcs
    refine ⟨⟨by simpa using hne, by simpa using hall⟩, ?_⟩
    rw [← String.toList_inj, hline]
    simp
  · rintro ⟨hn, rfl⟩
    refine ⟨name.toList, headingName?_eq_some_iff.mpr ⟨by simpa using hn.ne_empty, hn.letters, ?_⟩,
      by simp⟩
    simp

theorem IsName.isWord_heading {name : String} (h : IsName name) : IsWord (name ++ ":") := by
  refine ⟨by simp, fun c hc => ?_⟩
  rw [String.toList_append, List.mem_append] at hc
  rcases hc with hc | hc
  · exact isBlank_of_isLetter (h.letters c hc)
  · have hcolon : c = ':' := by simpa using hc
    subst hcolon
    decide

end Mailroom.Text
