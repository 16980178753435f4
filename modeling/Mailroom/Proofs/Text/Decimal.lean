import Mailroom.Proofs.Text.Numerals
import Mathlib.Data.Nat.Digits.Defs

/-!
# Integers in decimal

An integer that is written with at most 4300 digits is read back. The reader knows digits of every
script; those that are written are the ASCII ones, the first row of its table.

Different integers are written differently. This is proved for numbers that stand alone, and for
those that are followed by a character that is no part of a number, so that a list of numbers can be
told back into the numbers.
-/

set_option autoImplicit false

namespace Mailroom.Text

theorem digitValue?_of_ascii {c : Char} (h : c.isDigit = true) :
    digitValue? c = some (c.toNat - '0'.toNat) := by
  have hc : 48 ≤ c.toNat ∧ c.toNat < 48 + 10 := by
    simp only [Char.isDigit, Bool.and_eq_true, decide_eq_true_eq, ge_iff_le,
      UInt32.le_iff_toNat_le] at h
    change 48 ≤ c.toNat ∧ c.toNat ≤ 57 at h
    omega
  unfold digitValue? zeros
  rw [List.find?_cons_of_pos (by simpa using hc)]
  rfl

theorem isDigit_of_ascii {c : Char} (h : c.isDigit = true) : isDigit c = true := by
  simp [isDigit, digitValue?_of_ascii h]

theorem digits_of_ascii {cs : List Char} (hne : cs ≠ []) (h : ∀ c ∈ cs, c.isDigit = true) :
    Digits cs (cs.map fun c => c.toNat - '0'.toNat) := by
  apply digits_of_values hne
  rw [List.forall₂_map_right_iff, List.forall₂_same]
  intro c hc
  exact digitValue?_of_ascii (h c hc)

theorem digitsValue_of_ascii (cs : List Char) :
    digitsValue (cs.map fun c => c.toNat - '0'.toNat) = Nat.ofDigitChars 10 cs 0 := by
  rw [← ofDigits_ten, ofDigits, List.foldl_map, Nat.ofDigitChars_eq_foldl]
  simp only [Nat.mul_comm]

theorem toList_toString_nat (n : Nat) : (toString n).toList = Nat.toDigits 10 n := by
  rw [Nat.toString_eq_ofList_toDigits, String.toList_ofList]

theorem toString_nat_injective : Function.Injective (toString : Nat → String) := by
  intro m n h
  have hdigits : Nat.toDigits 10 m = Nat.toDigits 10 n := by
    rw [← toList_toString_nat, h, toList_toString_nat]
  have hvalue := congrArg (fun ds => Nat.ofDigitChars 10 ds 0) hdigits
  simpa using hvalue

theorem isDigit_of_mem_toString {n : Nat} {c : Char} (h : c ∈ (toString n).toList) :
    c.isDigit = true := by
  rw [toList_toString_nat] at h
  exact Nat.isDigit_of_mem_toDigits (by decide) (by decide) h

theorem lt_pow_of_lt {n k m : Nat} (hn : n < 10 ^ k) (hk : k ≤ m) : n < 10 ^ m :=
  lt_of_lt_of_le hn (Nat.pow_le_pow_right (by decide) hk)

theorem lt_pow_of_lt_two_pow {n k m : Nat} (hn : n < 2 ^ k) (hk : k ≤ m) : n < 10 ^ m :=
  lt_pow_of_lt (lt_of_lt_of_le hn (Nat.pow_le_pow_left (by decide) k)) hk

theorem Digits.lt {cs : List Char} {ds : List Nat} (h : Digits cs ds) : ∀ d ∈ ds, d < 10 := by
  induction h with
  | last hc => simpa using digitValue?_lt hc
  | next hc _ ih => simpa using ⟨digitValue?_lt hc, ih⟩
  | apart hc _ ih => simpa using ⟨digitValue?_lt hc, ih⟩

theorem Digits.value_lt {cs : List Char} {ds : List Nat} (h : Digits cs ds) :
    digitsValue ds < 10 ^ ds.length := by
  rw [← List.length_reverse]
  exact Nat.ofDigits_lt_base_pow_length (by decide) fun d hd => h.lt d (List.mem_reverse.mp hd)

theorem Numeral.natAbs_lt {cs : List Char} {n : Int} (h : Numeral cs n) :
    n.natAbs < 10 ^ 4300 := by
  cases h with
  | plain hd hlen => exact lt_pow_of_lt hd.value_lt hlen
  | plus hd hlen => exact lt_pow_of_lt hd.value_lt hlen
  | minus hd hlen =>
    rw [Int.natAbs_neg]
    exact lt_pow_of_lt hd.value_lt hlen

theorem exists_digits_toString {n : Nat} (hn : n < 10 ^ 4300) :
    ∃ ds, Digits (toString n).toList ds ∧ ds.length ≤ 4300 ∧ digitsValue ds = n := by
  refine ⟨_, digits_of_ascii ?_ fun c hc => isDigit_of_mem_toString hc, ?_, ?_⟩
  · rw [toList_toString_nat]
    exact Nat.toDigits_ne_nil
  · rw [List.length_map, toList_toString_nat]
    exact Nat.toDigits_length 10 n 4300 (by decide) hn
  · rw [digitsValue_of_ascii, toList_toString_nat]
    exact Nat.ofDigitChars_toDigits (by decide) (by decide)

theorem numeral_toString_nat {n : Nat} (hn : n < 10 ^ 4300) :
    Numeral (toString n).toList n := by
  obtain ⟨ds, hd, hlen, rfl⟩ := exists_digits_toString hn
  exact .plain hd hlen

theorem toString_natCast (n : Nat) : toString (n : Int) = toString n := rfl

theorem toString_int (n : Int) :
    toString n = (if 0 ≤ n then "" else "-") ++ toString n.natAbs := by
  rw [Int.toString_eq_repr, Int.repr_eq_if, Nat.toString_eq_repr]
  split
  · rw [String.empty_append, show n.toNat = n.natAbs by omega]
  · rw [show (-n).toNat = n.natAbs by omega]

theorem exists_toList_toString (n : Int) :
    ∃ d ds, d.isDigit = true ∧ (∀ c ∈ ds, c.isDigit = true) ∧
      ((toString n).toList = d :: ds ∨ (toString n).toList = '-' :: d :: ds) := by
  have hdigit : ∀ c ∈ (toString n.natAbs).toList, c.isDigit = true := fun c hc =>
    isDigit_of_mem_toString hc
  rw [toString_int, String.toList_append]
  cases habs : (toString n.natAbs).toList with
  | nil =>
    rw [toList_toString_nat] at habs
    exact absurd habs Nat.toDigits_ne_nil
  | cons d ds =>
    rw [habs] at hdigit
    refine ⟨d, ds, hdigit d (by simp), fun c hc => hdigit c (by simp [hc]), ?_⟩
    split
    · exact Or.inl rfl
    · exact Or.inr rfl

theorem mem_toString_int {n : Int} {c : Char} (h : c ∈ (toString n).toList) :
    c.isDigit = true ∨ c = '-' := by
  rw [toString_int, String.toList_append, List.mem_append] at h
  rcases h with hsign | hdigit
  · split at hsign
    · simp at hsign
    · exact Or.inr (by simpa using hsign)
  · exact Or.inl (isDigit_of_mem_toString hdigit)

theorem toString_int_injective : Function.Injective (toString : Int → String) := by
  intro m n h
  have hsign : ∀ k : Int, '-' ∈ (toString k).toList ↔ k < 0 := by
    intro k
    rw [toString_int, String.toList_append, List.mem_append]
    constructor
    · rintro (hsign | hdigit)
      · split at hsign
        · simp at hsign
        · omega
      · exact absurd (isDigit_of_mem_toString hdigit) (by decide)
    · intro hk
      rw [if_neg (by omega)]
      exact Or.inl (by simp)
  have hneg : m < 0 ↔ n < 0 := by rw [← hsign, h, hsign]
  have habs : m.natAbs = n.natAbs := by
    rw [toString_int, toString_int] at h
    by_cases hm : m < 0
    · rw [if_neg (by omega), if_neg (by omega)] at h
      exact toString_nat_injective ((String.append_right_inj "-").mp h)
    · rw [if_pos (by omega), if_pos (by omega)] at h
      exact toString_nat_injective ((String.append_right_inj "").mp h)
  omega

theorem toString_append_cons_inj {m n : Int} {c : Char} {s t : List Char} (hc : c.isDigit = false)
    (hsign : c ≠ '-') (h : (toString m).toList ++ c :: s = (toString n).toList ++ c :: t) :
    m = n ∧ s = t := by
  let inside : Char → Bool := fun d => d.isDigit || d == '-'
  have hcut : ∀ (k : Int) (rest : List Char),
      ((toString k).toList ++ c :: rest).takeWhile inside = (toString k).toList := by
    intro k rest
    rw [List.takeWhile_append_of_pos fun d hd => by simpa [inside] using mem_toString_int hd]
    simp [inside, hc, hsign]
  have hsame : (toString m).toList = (toString n).toList := by rw [← hcut m s, h, hcut n t]
  rw [hsame] at h
  exact ⟨toString_int_injective (String.toList_inj.mp hsame),
    (List.cons.inj (List.append_cancel_left h)).2⟩

theorem isWord_toString (n : Int) : IsWord (toString n) := by
  refine ⟨?_, fun c hc => ?_⟩
  · rw [toString_int, Nat.toString_eq_repr]
    simp [Nat.repr_ne_empty]
  · rcases mem_toString_int hc with hdigit | rfl
    · exact isBlank_of_isDigit (isDigit_of_ascii hdigit)
    · decide

theorem isWord_toString_nat (n : Nat) : IsWord (toString n) := isWord_toString n

theorem numeral_toString {n : Int} (hn : n.natAbs < 10 ^ 4300) :
    Numeral (toString n).toList n := by
  obtain ⟨ds, hd, hlen, hvalue⟩ := exists_digits_toString hn
  rw [toString_int]
  split
  · rename_i hsign
    have hnum : Numeral (toString n.natAbs).toList (digitsValue ds) := .plain hd hlen
    rw [hvalue, Int.natAbs_of_nonneg hsign] at hnum
    rwa [String.empty_append]
  · rename_i hsign
    have hnum : Numeral ('-' :: (toString n.natAbs).toList) (-(digitsValue ds : Int)) :=
      .minus hd hlen
    rw [hvalue, Int.ofNat_natAbs_of_nonpos (by omega), Int.neg_neg] at hnum
    simpa using hnum

theorem readDecimal_toString {n : Int} (hn : n.natAbs < 10 ^ 4300) :
    readDecimal (toString n) = .ok n :=
  (readInteger_word_iff (numeral_toString hn).solid).mpr (numeral_toString hn)

end Mailroom.Text
