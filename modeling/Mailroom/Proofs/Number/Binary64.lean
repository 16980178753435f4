import Mailroom.Number.Decimal
import Mathlib.Algebra.Order.Field.Power
import Mathlib.Data.Rat.Cast.Order
import Mathlib.Tactic.Linarith
import Mathlib.Tactic.Positivity
import Mathlib.Tactic.Ring

/-!
# Quotients that are doubles

`value?` is the rational that a double stands for. `nearest` first finds the power of two at or
below a quotient, which settles the exponent, and then rounds the quotient in units of that
exponent. For a quotient that is a natural number of at most 53 bits there is nothing to round, so
it is the value of the double that comes out (`nearest_exact`). Comparing such a double with an
integer, and writing it with two places, then need no rounding either.
-/

set_option autoImplicit false

namespace Mailroom.Binary64

/-- The number that a double stands for. -/
def value? : Binary64 → Option ℚ
  | .finite negative mantissa exponent =>
    some ((if negative then -1 else 1) * mantissa * 2 ^ exponent)
  | .infinite _ => none
  | .nan => none

theorem twoTo_cast (n : ℕ) : (twoTo n : ℚ) = 2 ^ n := by
  simp [twoTo]

theorem twoTo_pos (n : ℕ) : 0 < twoTo n := Nat.pow_pos (by decide)

theorem twoTo_div_twoTo (e : ℤ) :
    (twoTo e.toNat : ℚ) = 2 ^ e * twoTo (-e).toNat := by
  rw [twoTo_cast, twoTo_cast, ← zpow_natCast, ← zpow_natCast, ← zpow_add₀ two_ne_zero]
  congr 1
  omega

/-! ## Rounding -/

theorem roundDiv_mul (q : ℕ) {d : ℕ} (hd : 0 < d) : roundDiv (q * d) d = q := by
  have hq : q * d / d = q := Nat.mul_div_cancel q hd
  have hr : q * d % d = 0 := Nat.mul_mod_left q d
  have hne : (0 == d) = false := by simpa using hd.ne
  simp [roundDiv, hq, hr, hne]

theorem inUnits_exact {num den m : ℕ} {e : ℤ} (hden : 0 < den)
    (h : (num : ℚ) = m * 2 ^ e * den) : inUnits num den e = m := by
  have hmul : num * twoTo (-e).toNat = m * (den * twoTo e.toNat) := by
    have hcast : ((num * twoTo (-e).toNat : ℕ) : ℚ) = ((m * (den * twoTo e.toNat) : ℕ) : ℚ) := by
      push_cast
      rw [h, twoTo_div_twoTo e]
      ring
    exact_mod_cast hcast
  rw [inUnits, hmul]
  exact roundDiv_mul m (Nat.mul_pos hden (twoTo_pos _))

/-- The exponent is that of the largest power of two which the quotient reaches. -/
theorem floorLog2_spec {num den : ℕ} (hnum : 0 < num) (hden : 0 < den) :
    (2 : ℚ) ^ floorLog2 num den * den ≤ num ∧ (num : ℚ) < 2 ^ (floorLog2 num den + 1) * den := by
  -- what the logarithms of the two numbers say, each up to a factor of two
  have hn₁ : (2 : ℚ) ^ (num.log2 : ℤ) ≤ num := by
    rw [zpow_natCast]
    exact_mod_cast Nat.log2_self_le hnum.ne'
  have hn₂ : (num : ℚ) < 2 ^ ((num.log2 : ℤ) + 1) := by
    have hlt := Nat.lt_log2_self (n := num)
    rw [← Nat.cast_succ, zpow_natCast]
    exact_mod_cast hlt
  have hd₁ : (2 : ℚ) ^ (den.log2 : ℤ) ≤ den := by
    rw [zpow_natCast]
    exact_mod_cast Nat.log2_self_le hden.ne'
  have hd₂ : (den : ℚ) < 2 ^ ((den.log2 : ℤ) + 1) := by
    have hlt := Nat.lt_log2_self (n := den)
    rw [← Nat.cast_succ, zpow_natCast]
    exact_mod_cast hlt
  obtain ⟨k, hk⟩ : ∃ k : ℤ, k = (num.log2 : ℤ) - den.log2 := ⟨_, rfl⟩
  have htest : den * twoTo k.toNat ≤ num * twoTo (-k).toNat ↔ (2 : ℚ) ^ k * den ≤ num := by
    have hpos : (0 : ℚ) < twoTo (-k).toNat := by exact_mod_cast twoTo_pos _
    rw [← Nat.cast_le (α := ℚ)]
    push_cast
    rw [twoTo_div_twoTo k, ← mul_assoc, mul_comm (den : ℚ), mul_le_mul_iff_left₀ hpos]
  have hlow : (2 : ℚ) ^ (k - 1) * den ≤ num := by
    calc (2 : ℚ) ^ (k - 1) * den ≤ 2 ^ (k - 1) * 2 ^ ((den.log2 : ℤ) + 1) := by gcongr
      _ = 2 ^ (num.log2 : ℤ) := by
        rw [← zpow_add₀ two_ne_zero]
        congr 1
        omega
      _ ≤ num := hn₁
  have hhigh : (num : ℚ) < 2 ^ (k + 1) * den := by
    calc (num : ℚ) < 2 ^ ((num.log2 : ℤ) + 1) := hn₂
      _ = 2 ^ (k + 1) * 2 ^ (den.log2 : ℤ) := by
        rw [← zpow_add₀ two_ne_zero]
        congr 1
        omega
      _ ≤ 2 ^ (k + 1) * den := by gcongr
  have hfloor : floorLog2 num den = if (2 : ℚ) ^ k * den ≤ num then k else k - 1 := by
    simp only [floorLog2, ← hk, htest]
  rw [hfloor]
  split
  · exact ⟨‹_›, hhigh⟩
  · rename_i hlt
    rw [sub_add_cancel]
    exact ⟨hlow, not_le.mp hlt⟩

theorem exists_mantissa {c : ℕ} {k : ℤ} (hc : c ≤ 2 ^ 53) (hlow : (2 : ℚ) ^ k ≤ c) (hk : k ≤ 53) :
    ∃ m : ℕ, (m : ℚ) * 2 ^ (k - 52) = c := by
  rcases hk.lt_or_eq with hlt | rfl
  · refine ⟨c * 2 ^ (52 - k).toNat, ?_⟩
    have hexp : ((52 - k).toNat : ℤ) + (k - 52) = 0 := by omega
    rw [Nat.cast_mul, Nat.cast_pow, Nat.cast_ofNat, mul_assoc, ← zpow_natCast,
      ← zpow_add₀ two_ne_zero, hexp, zpow_zero, mul_one]
  · -- only the largest number has an exponent that is positive
    have hmax : c = 2 ^ 53 := by
      refine le_antisymm hc ?_
      exact_mod_cast hlow
    refine ⟨2 ^ 52, ?_⟩
    rw [hmax]
    norm_num

theorem nearest_of_pos {num den : ℕ} {E : ℤ} (hnum : 0 < num)
    (hE : max (floorLog2 num den - 52) leastExponent = E) (hroom : E < 971) :
    ∃ m e, nearest num den = some (m, e) ∧ (m : ℚ) * 2 ^ e = inUnits num den E * 2 ^ E := by
  simp only [nearest, if_neg hnum.ne', hE]
  by_cases hfull : inUnits num den E = twoTo 53
  · refine ⟨twoTo 52, E + 1, ?_, ?_⟩
    · simp only [if_pos hfull]
      exact if_neg (by omega)
    · rw [hfull, twoTo_cast, twoTo_cast, zpow_add_one₀ two_ne_zero]
      ring
  · refine ⟨inUnits num den E, E, ?_, rfl⟩
    simp only [if_neg hfull]
    exact if_neg (by omega)

/-- A quotient that is a natural number of at most 53 bits is a double. -/
theorem nearest_exact {c den : ℕ} (hden : 0 < den) (hc : c ≤ 2 ^ 53) :
    ∃ m e, nearest (c * den) den = some (m, e) ∧ (m : ℚ) * 2 ^ e = c := by
  rcases Nat.eq_zero_or_pos c with rfl | hpos
  · exact ⟨0, leastExponent, by simp [nearest], by simp⟩
  obtain ⟨hlow, hhigh⟩ := floorLog2_spec (Nat.mul_pos hpos hden) hden
  obtain ⟨k, hk⟩ : ∃ k, k = floorLog2 (c * den) den := ⟨_, rfl⟩
  have hden' : (0 : ℚ) < den := by exact_mod_cast hden
  rw [← hk, Nat.cast_mul, mul_le_mul_iff_left₀ hden'] at hlow
  rw [← hk, Nat.cast_mul, mul_lt_mul_iff_left₀ hden'] at hhigh
  -- the exponent is between 0 and 53, far from both ends of the format
  have hk₀ : 0 < k + 1 := by
    have hone : (1 : ℚ) ≤ c := by exact_mod_cast hpos
    have hlt : (2 : ℚ) ^ (0 : ℤ) < 2 ^ (k + 1) := by
      rw [zpow_zero]
      exact hone.trans_lt hhigh
    exact (zpow_lt_zpow_iff_right₀ one_lt_two).mp hlt
  have hk₅₃ : k ≤ 53 := by
    have hle : (2 : ℚ) ^ k ≤ 2 ^ (53 : ℤ) := hlow.trans (by exact_mod_cast hc)
    exact (zpow_le_zpow_iff_right₀ one_lt_two).mp hle
  -- in units of `2 ^ (k - 52)` the quotient is a natural, so nothing is rounded
  obtain ⟨m, hm⟩ := exists_mantissa hc hlow hk₅₃
  have hexp : max (floorLog2 (c * den) den - 52) leastExponent = k - 52 := by
    rw [← hk, leastExponent]
    omega
  have hunits : inUnits (c * den) den (k - 52) = m := by
    apply inUnits_exact hden
    rw [hm, Nat.cast_mul]
  obtain ⟨m', e, hnearest, hvalue⟩ := nearest_of_pos (Nat.mul_pos hpos hden) hexp (by omega)
  refine ⟨m', e, hnearest, ?_⟩
  rw [hvalue, hunits, hm]

theorem exists_nearest {num den : ℕ} (hden : 0 < den) (h : num < 2 ^ 1023 * den) :
    ∃ x, nearest num den = some x := by
  rcases Nat.eq_zero_or_pos num with rfl | hpos
  · exact ⟨(0, leastExponent), by simp [nearest]⟩
  have hden' : (0 : ℚ) < den := by exact_mod_cast hden
  have hexp : floorLog2 num den < 1023 := by
    have hlt : (2 : ℚ) ^ floorLog2 num den * den < 2 ^ (1023 : ℤ) * den :=
      (floorLog2_spec hpos hden).1.trans_lt (by exact_mod_cast h)
    exact (zpow_lt_zpow_iff_right₀ one_lt_two).mp (lt_of_mul_lt_mul_right hlt hden'.le)
  have hroom : max (floorLog2 num den - 52) leastExponent < 971 := by
    rw [leastExponent]
    omega
  obtain ⟨m, e, hnearest, -⟩ := nearest_of_pos hpos rfl hroom
  exact ⟨(m, e), hnearest⟩

/-! ## Doubles that are natural numbers -/

theorem fraction_exact {m c : ℕ} {e : ℤ} (h : (m : ℚ) * 2 ^ e = c) :
    fraction m e = (c * twoTo (-e).toNat, twoTo (-e).toNat) := by
  have hnum : m * twoTo e.toNat = c * twoTo (-e).toNat := by
    have hcast : ((m * twoTo e.toNat : ℕ) : ℚ) = ((c * twoTo (-e).toNat : ℕ) : ℚ) := by
      push_cast
      rw [twoTo_div_twoTo e, ← mul_assoc, h]
    exact_mod_cast hcast
  rw [fraction, hnum]

theorem divInt?_exact {c den : ℕ} (hden : 0 < den) (hc : c ≤ 2 ^ 53) :
    ∃ m e, divInt? ((den : ℤ) * c) den = some (.finite false m e) ∧ (m : ℚ) * 2 ^ e = c := by
  obtain ⟨m, e, hnearest, hvalue⟩ := nearest_exact hden hc
  have habs : ((den : ℤ) * c).natAbs = c * den := by
    rw [← Nat.cast_mul, Int.natAbs_natCast, Nat.mul_comm]
  have hsign : ¬ (den : ℤ) * c < 0 := not_lt.mpr (by positivity)
  refine ⟨m, e, ?_, hvalue⟩
  simp [divInt?, habs, hnearest, hsign]

theorem exists_divInt? {c den : ℕ} (hden : 0 < den) (hc : c < 2 ^ 1023) :
    ∃ x, divInt? ((den : ℤ) * c) den = some x := by
  have habs : ((den : ℤ) * c).natAbs = c * den := by
    rw [← Nat.cast_mul, Int.natAbs_natCast, Nat.mul_comm]
  obtain ⟨x, hx⟩ := exists_nearest hden (Nat.mul_lt_mul_of_pos_right hc hden)
  exact ⟨_, by rw [divInt?, habs, hx]; rfl⟩

/-- Comparing a double with an integer does not round. -/
theorem leInt_iff (negative : Bool) (m : ℕ) (e n : ℤ) :
    (finite negative m e).leInt n = true ↔
      (if negative then -1 else 1) * (m : ℚ) * 2 ^ e ≤ n := by
  have hpos : (0 : ℚ) < twoTo (-e).toNat := by exact_mod_cast twoTo_pos _
  have hnum : ((m * twoTo e.toNat : ℕ) : ℚ) = m * 2 ^ e * twoTo (-e).toNat := by
    push_cast
    rw [twoTo_div_twoTo e, mul_assoc]
  simp only [leInt, decide_eq_true_eq]
  simp only [fraction]
  rw [← Int.cast_le (R := ℚ), Int.cast_mul, Int.cast_natCast]
  cases negative with
  | true =>
    simp only [if_true, Int.cast_neg, Int.cast_natCast, hnum]
    rw [← neg_mul, mul_le_mul_iff_left₀ hpos, mul_assoc, neg_one_mul]
  | false =>
    simp only [Bool.false_eq_true, if_false, Int.cast_natCast, hnum]
    rw [mul_le_mul_iff_left₀ hpos, one_mul]

theorem leInt_exact {m c : ℕ} {e : ℤ} (h : (m : ℚ) * 2 ^ e = c) (n : ℤ) :
    (finite false m e).leInt n = true ↔ (c : ℤ) ≤ n := by
  rw [leInt_iff, if_neg Bool.false_ne_true, one_mul, h]
  exact_mod_cast Iff.rfl

theorem fixed_exact {m c : ℕ} {e : ℤ} (h : (m : ℚ) * 2 ^ e = c) :
    (finite false m e).fixed 2 = toString c ++ ".00" := by
  have hten : tenTo 2 = 100 := rfl
  have hscaled : roundDiv (c * twoTo (-e).toNat * 100) (twoTo (-e).toNat) = c * 100 := by
    rw [Nat.mul_right_comm]
    exact roundDiv_mul (c * 100) (twoTo_pos _)
  have hwhole : c * 100 / 100 = c := Nat.mul_div_cancel c (by decide)
  have hpart : paddedNat 2 (c * 100 % 100) = "00" := by
    rw [Nat.mul_mod_left]
    rfl
  simp only [fixed, fraction_exact h, hten, hscaled, hwhole, hpart, Bool.false_eq_true, if_false]
  rw [String.empty_append, String.append_assoc]
  rfl

end Mailroom.Binary64
