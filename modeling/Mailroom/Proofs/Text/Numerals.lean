import Mailroom.Proofs.Text.Lines
import Mailroom.Text.Numeral
import Mathlib.Data.List.Forall2
import Mathlib.Data.Nat.Digits.Defs

/-!
# The grammar of decimal numerals

`readInteger` goes through a numeral with a flag for whether an underscore may come next. The
grammar says the same without the flag: digits of any script, each followed by the next or by one
underscore and the next (`Digits`), with a sign or without (`Numeral`). The value is that of the
digits in base ten. What the flag stands for is `Continues`, the part of a numeral after one of its
digits.
-/

set_option autoImplicit false

namespace Mailroom.Text

/-! ## Digits -/

theorem digitValue?_lt {c : Char} {d : Nat} (h : digitValue? c = some d) : d < 10 := by
  obtain ⟨z, hz, rfl⟩ := Option.map_eq_some_iff.mp h
  have hrange := List.find?_some hz
  simp only [Bool.and_eq_true, decide_eq_true_eq] at hrange
  omega

theorem digitIn?_ten (c : Char) : digitIn? 10 c = digitValue? c := by
  unfold digitIn?
  cases hd : digitValue? c with
  | some d => simp [digitValue?_lt hd]
  | none =>
    simp only []
    split
    · simp
    · split <;> simp

theorem isBlank_of_isDigit {c : Char} (h : isDigit c = true) : isBlank c = false := by
  -- no row of ten digits has a blank in it
  have hrows : ∀ z ∈ zeros, ∀ k < 10, (0x09 ≤ z + k && z + k ≤ 0x0D) = false ∧
      z + k ≠ 0x20 ∧ z + k ≠ 0x85 ∧ z + k ≠ 0xA0 ∧ z + k ≠ 0x1680 ∧
      (0x2000 ≤ z + k && z + k ≤ 0x200A) = false ∧ z + k ≠ 0x2028 ∧ z + k ≠ 0x2029 ∧
      z + k ≠ 0x202F ∧ z + k ≠ 0x205F ∧ z + k ≠ 0x3000 ∧
      (0x1C ≤ z + k && z + k ≤ 0x1F) = false := by
    decide
  obtain ⟨d, hd⟩ := Option.isSome_iff_exists.mp h
  obtain ⟨z, hz, rfl⟩ := Option.map_eq_some_iff.mp hd
  have hrange := List.find?_some hz
  simp only [Bool.and_eq_true, decide_eq_true_eq] at hrange
  have hrow := hrows z (List.mem_of_find?_eq_some hz) (c.toNat - z) (by omega)
  rw [Nat.add_sub_cancel' hrange.1] at hrow
  obtain ⟨h₁, h₂, h₃, h₄, h₅, h₆, h₇, h₈, h₉, h₁₀, h₁₁, h₁₂⟩ := hrow
  simp [isBlank, isSpace, h₁, h₂, h₃, h₄, h₅, h₆, h₇, h₈, h₉, h₁₀, h₁₁, h₁₂]

def digitsValue (ds : List Nat) : Nat := Nat.ofDigits 10 ds.reverse

theorem ofDigits_ten (ds : List Nat) : ofDigits 10 ds = digitsValue ds := by
  rw [digitsValue, Nat.ofDigits_eq_foldr, List.foldr_reverse, ofDigits]
  simp only [Nat.cast_id, Nat.mul_comm, Nat.add_comm]

/-! ## Numerals -/

/-- Digits of any script with these values, and single underscores between them. -/
inductive Digits : List Char → List Nat → Prop where
  | last {c : Char} {d : Nat} (hc : digitValue? c = some d) : Digits [c] [d]
  | next {c : Char} {d : Nat} {cs : List Char} {ds : List Nat} (hc : digitValue? c = some d)
      (hr : Digits cs ds) : Digits (c :: cs) (d :: ds)
  | apart {c : Char} {d : Nat} {cs : List Char} {ds : List Nat} (hc : digitValue? c = some d)
      (hr : Digits cs ds) : Digits (c :: '_' :: cs) (d :: ds)

/-- A numeral of an integer: at most 4300 digits, and a sign in front or none. -/
inductive Numeral : List Char → Int → Prop where
  | plain {cs : List Char} {ds : List Nat} (hd : Digits cs ds) (hlen : ds.length ≤ 4300) :
      Numeral cs (digitsValue ds)
  | plus {cs : List Char} {ds : List Nat} (hd : Digits cs ds) (hlen : ds.length ≤ 4300) :
      Numeral ('+' :: cs) (digitsValue ds)
  | minus {cs : List Char} {ds : List Nat} (hd : Digits cs ds) (hlen : ds.length ≤ 4300) :
      Numeral ('-' :: cs) (-(digitsValue ds : Int))

/-- What may follow a digit of a numeral. -/
def Continues (cs : List Char) (ds : List Nat) : Prop :=
  (cs = [] ∧ ds = []) ∨ Digits cs ds ∨ ∃ rest, cs = '_' :: rest ∧ Digits rest ds

theorem digits_cons_iff {c : Char} {d : Nat} {cs : List Char} {ds : List Nat}
    (hc : digitValue? c = some d) :
    Digits (c :: cs) ds ↔ ∃ more, ds = d :: more ∧ Continues cs more := by
  constructor
  · intro h
    cases h with
    | last hc' =>
      cases hc.symm.trans hc'
      exact ⟨[], rfl, Or.inl ⟨rfl, rfl⟩⟩
    | next hc' hr =>
      cases hc.symm.trans hc'
      exact ⟨_, rfl, Or.inr (Or.inl hr)⟩
    | apart hc' hr =>
      cases hc.symm.trans hc'
      exact ⟨_, rfl, Or.inr (Or.inr ⟨_, rfl, hr⟩)⟩
  · rintro ⟨more, rfl, ⟨rfl, rfl⟩ | hr | ⟨rest, rfl, hr⟩⟩
    · exact .last hc
    · exact .next hc hr
    · exact .apart hc hr

theorem not_digits_of_digitValue?_eq_none {c : Char} {cs : List Char} {ds : List Nat}
    (hc : digitValue? c = none) : ¬ Digits (c :: cs) ds := by
  intro h
  cases h with
  | last hc' | next hc' | apart hc' => rw [hc] at hc'; cases hc'

theorem digitRun_eq_iff (cs : List Char) (ds : List Nat) :
    (digitRun 10 false cs = ⟨ds, [], true⟩ ↔ Digits cs ds) ∧
      (digitRun 10 true cs = ⟨ds, [], true⟩ ↔ Continues cs ds) := by
  induction cs generalizing ds with
  | nil =>
    constructor
    · simp only [digitRun, DigitRun.mk.injEq, Bool.false_eq_true, and_false, false_iff]
      intro h
      cases h
    · simp only [digitRun, DigitRun.mk.injEq, and_true, Continues, true_and, reduceCtorEq,
        false_and, exists_false, or_false]
      constructor
      · intro h
        exact Or.inl h.symm
      · rintro (h | h)
        · exact h.symm
        · cases h
  | cons c cs ih =>
    cases hc : digitValue? c with
    | some d =>
      have hunder : c ≠ '_' := by
        rintro rfl
        cases hc
      -- a digit may follow a digit or stand first, so both readings go on alike
      have hrun : ∀ b, digitRun 10 b (c :: cs) = ⟨ds, [], true⟩ ↔ Digits (c :: cs) ds := by
        intro b
        rw [digits_cons_iff hc]
        simp only [digitRun, digitIn?_ten, hc, DigitRun.mk.injEq]
        constructor
        · rintro ⟨rfl, hrest, hplaced⟩
          have hall : digitRun 10 true cs = ⟨_, _, _⟩ := rfl
          rw [hrest, hplaced] at hall
          exact ⟨_, rfl, (ih _).2.mp hall⟩
        · rintro ⟨more, rfl, hmore⟩
          rw [(ih more).2.mpr hmore]
          exact ⟨rfl, rfl, rfl⟩
      refine ⟨hrun false, (hrun true).trans ?_⟩
      simp [Continues, hunder]
    | none =>
      have hno : ¬ Digits (c :: cs) ds := not_digits_of_digitValue?_eq_none hc
      by_cases hunder : c = '_'
      · subst hunder
        constructor
        · simpa [digitRun, digitIn?_ten, hc] using hno
        · simpa [digitRun, digitIn?_ten, hc, Continues, hno] using (ih ds).1
      · constructor
        · simpa [digitRun, digitIn?_ten, hc, hunder] using hno
        · simpa [digitRun, digitIn?_ten, hc, hunder, Continues] using hno

theorem Digits.takeSign_eq {cs : List Char} {ds : List Nat} (h : Digits cs ds) :
    takeSign cs = (false, cs) := by
  unfold takeSign
  split
  · exact absurd h (not_digits_of_digitValue?_eq_none (by decide))
  · exact absurd h (not_digits_of_digitValue?_eq_none (by decide))
  · rfl

theorem numeral_iff_takeSign {cs : List Char} {n : Int} :
    Numeral cs n ↔ ∃ ds, Digits (takeSign cs).2 ds ∧ ds.length ≤ 4300 ∧
      n = if (takeSign cs).1 then -(digitsValue ds : Int) else digitsValue ds := by
  constructor
  · intro h
    cases h with
    | @plain cs ds hd hlen =>
      rw [hd.takeSign_eq]
      exact ⟨ds, hd, hlen, rfl⟩
    | plus hd hlen => exact ⟨_, hd, hlen, rfl⟩
    | minus hd hlen => exact ⟨_, hd, hlen, rfl⟩
  · unfold takeSign
    split
    · rintro ⟨ds, hd, hlen, rfl⟩
      exact .minus hd hlen
    · rintro ⟨ds, hd, hlen, rfl⟩
      exact .plus hd hlen
    · rintro ⟨ds, hd, hlen, rfl⟩
      exact .plain hd hlen

theorem dropBaseMark_ten (cs : List Char) : dropBaseMark 10 cs = cs := by
  unfold dropBaseMark
  split
  · exact if_neg (by simp [marksBase])
  · rfl

/-- A text without white space around it is read when it is a numeral, as the integer that it
writes. -/
theorem readInteger_eq_ok_iff {cs : List Char} {n : Int} (hcs : trimBoth isSpace cs = cs) :
    readInteger 10 cs = .ok n ↔ Numeral cs n := by
  rw [numeral_iff_takeSign]
  simp only [readInteger, hcs, dropBaseMark_ten, ofDigits_ten]
  generalize takeSign cs = signed
  have hruns := fun ds => (digitRun_eq_iff signed.2 ds).1
  generalize digitRun 10 false signed.2 = run at hruns
  obtain ⟨digits, rest, wellPlaced⟩ := run
  simp only [DigitRun.mk.injEq] at hruns
  constructor
  · intro h
    split at h
    · cases h
    · split at h
      · cases h
      · split at h
        · cases h
        · rename_i hplaced hlen hrest
          simp only [Bool.not_eq_true', Bool.not_eq_false] at hplaced
          simp only [true_and, not_lt, digitLimit] at hlen
          simp only [Bool.not_eq_true', Bool.not_eq_false, List.isEmpty_iff] at hrest
          exact ⟨digits, (hruns digits).mp ⟨rfl, hrest, hplaced⟩, hlen, (Except.ok.inj h).symm⟩
  · rintro ⟨ds, hd, hlen, rfl⟩
    obtain ⟨rfl, rfl, rfl⟩ := (hruns ds).mpr hd
    simp [digitLimit, Nat.not_lt.mpr hlen]

theorem trimBoth_isSpace_of_solid {w : List Char} (hw : ∀ c ∈ w, isBlank c = false) :
    trimBoth isSpace w = w := by
  have hspace : ∀ c ∈ w, isSpace c = false := by
    intro c hc
    have hblank := hw c hc
    rw [isBlank, Bool.or_eq_false_iff] at hblank
    exact hblank.1
  exact trimBoth_eq_self_iff.mpr
    ⟨fun c hc => hspace c (List.mem_of_head? hc), fun c hc => hspace c (List.mem_of_getLast? hc)⟩

theorem readInteger_word_iff {w : List Char} {n : Int} (hw : ∀ c ∈ w, isBlank c = false) :
    readInteger 10 w = .ok n ↔ Numeral w n :=
  readInteger_eq_ok_iff (trimBoth_isSpace_of_solid hw)

theorem Numeral.nonneg {cs : List Char} {n : Int} (h : Numeral cs n)
    (hcs : ∀ c ∈ cs, isDigit c = true) : 0 ≤ n := by
  cases h with
  | plain hd hlen => exact Int.natCast_nonneg _
  | plus hd hlen => exact Int.natCast_nonneg _
  | minus hd hlen =>
    have hminus := hcs '-' (by simp)
    exact absurd hminus (by decide)

theorem Numeral.ne_nil {cs : List Char} {n : Int} (h : Numeral cs n) : cs ≠ [] := by
  rintro rfl
  cases h with
  | plain hd hlen => cases hd

theorem Digits.solid {cs : List Char} {ds : List Nat} (h : Digits cs ds) :
    ∀ c ∈ cs, isBlank c = false := by
  have hdigit : ∀ {c : Char} {d : Nat}, digitValue? c = some d → isBlank c = false := by
    intro c d hc
    exact isBlank_of_isDigit (by simp [isDigit, hc])
  induction h with
  | last hc => simpa using hdigit hc
  | next hc _ ih => simpa using ⟨hdigit hc, ih⟩
  | apart hc _ ih =>
    have hunderscore : isBlank '_' = false := by decide
    simpa using ⟨hdigit hc, hunderscore, ih⟩

theorem Digits.readInteger_eq {cs : List Char} {ds : List Nat} (h : Digits cs ds) :
    readInteger 10 cs =
      if 4300 < ds.length then .error (.tooLong ds.length) else .ok (digitsValue ds) := by
  have hrun : digitRun 10 false cs = ⟨ds, [], true⟩ := (digitRun_eq_iff cs ds).1.mpr h
  simp only [readInteger, trimBoth_isSpace_of_solid h.solid, h.takeSign_eq, dropBaseMark_ten, hrun,
    ofDigits_ten]
  simp [digitLimit]

theorem digits_of_values {cs : List Char} {ds : List Nat} (hne : cs ≠ [])
    (h : List.Forall₂ (fun c d => digitValue? c = some d) cs ds) : Digits cs ds := by
  induction h with
  | nil => exact absurd rfl hne
  | @cons c d cs ds hc hcs ih =>
    cases hcs with
    | nil => exact .last hc
    | cons => exact .next hc (ih (by simp))

theorem exists_digits {cs : List Char} (hne : cs ≠ []) (h : ∀ c ∈ cs, isDigit c = true) :
    ∃ ds, Digits cs ds ∧ ds.length = cs.length := by
  refine ⟨cs.map fun c => (digitValue? c).getD 0, digits_of_values hne ?_, by simp⟩
  rw [List.forall₂_map_right_iff, List.forall₂_same]
  intro c hc
  obtain ⟨d, hd⟩ := Option.isSome_iff_exists.mp (h c hc)
  simp [hd]

theorem Numeral.solid {cs : List Char} {n : Int} (h : Numeral cs n) :
    ∀ c ∈ cs, isBlank c = false := by
  cases h with
  | plain hd hlen => exact hd.solid
  | plus hd hlen =>
    have hplus : isBlank '+' = false := by decide
    simpa using ⟨hplus, hd.solid⟩
  | minus hd hlen =>
    have hminus : isBlank '-' = false := by decide
    simpa using ⟨hminus, hd.solid⟩

end Mailroom.Text
