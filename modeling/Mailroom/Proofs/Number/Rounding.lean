import Mailroom.Proofs.Number.Binary64

/-!
# Rounding does not cross an integer

A quotient is rounded to the nearest double, and the double is compared with an integer. The answer
is that of the quotient itself, as long as numerator and denominator are at most `2 ^ 53`.

A quotient up to the integer is not rounded above it, because the integer is a double or the
quotient is far below. The other side needs an argument about gaps. A quotient above the integer is
above it by at least `1 / den`, and rounding moves it by at most half a unit of its last place. That
unit is small because the numerator is: with `2 ^ k * den ≤ num ≤ 2 ^ 53` half of it, `2 ^ (k -
53)`, is at most `1 / den`. The two are equal only where the quotient is a power of two, and there
nothing is rounded.
-/

set_option autoImplicit false

namespace Mailroom.Binary64

/-! ## Rounding to a natural number -/

theorem roundDiv_cases (num den : ℕ) :
    (roundDiv num den = num / den ∧ 2 * (num % den) ≤ den) ∨
      (roundDiv num den = num / den + 1 ∧ den ≤ 2 * (num % den)) := by
  unfold roundDiv
  dsimp only
  split
  · rename_i hup
    right
    refine ⟨rfl, ?_⟩
    simp only [Bool.or_eq_true, decide_eq_true_eq, Bool.and_eq_true, beq_iff_eq] at hup
    omega
  · rename_i hdown
    left
    refine ⟨rfl, ?_⟩
    simp only [Bool.or_eq_true, decide_eq_true_eq, not_or, not_lt] at hdown
    exact hdown.1

theorem roundDiv_le {num den m : ℕ} (hden : 0 < den) (h : num ≤ m * den) :
    roundDiv num den ≤ m := by
  rcases roundDiv_cases num den with ⟨heq, -⟩ | ⟨heq, hhalf⟩
  · rw [heq]
    exact Nat.div_le_of_le_mul (by rwa [Nat.mul_comm])
  · -- something is left over, so the quotient is not yet at `m`
    rw [heq]
    have hrest : num / den * den < num := by
      have hsplit := Nat.div_add_mod' num den
      omega
    exact Nat.lt_of_mul_lt_mul_right (hrest.trans_le h)

theorem two_mul_le_roundDiv {num den : ℕ} (hden : 0 < den) :
    2 * num ≤ (2 * roundDiv num den + 1) * den := by
  have hsplit := Nat.div_add_mod' num den
  have hrest := Nat.mod_lt num hden
  rcases roundDiv_cases num den with ⟨heq, hhalf⟩ | ⟨heq, -⟩
  · rw [heq, Nat.add_mul, Nat.mul_assoc]
    omega
  · rw [heq, Nat.add_mul, Nat.mul_assoc, Nat.add_mul]
    omega

/-- Rounded in parts of which there are at least half as many in one as the denominator says, a
quotient stays on its side of every natural number. -/
theorem roundDiv_scaled_le_iff {num den parts : ℕ} (hden : 0 < den) (hparts : 0 < parts)
    (hgap : den ≤ 2 * parts) (hsharp : den = 2 * parts → den ∣ num * parts) (g : ℕ) :
    roundDiv (num * parts) den ≤ g * parts ↔ num ≤ g * den := by
  constructor
  · intro hround
    by_contra hlt
    have hbound : 2 * (num * parts) ≤ (2 * roundDiv (num * parts) den + 1) * den :=
      two_mul_le_roundDiv hden
    have habove : (g * den + 1) * parts ≤ num * parts := Nat.mul_le_mul_right _ (by omega)
    have hupper : (2 * roundDiv (num * parts) den + 1) * den ≤ (2 * (g * parts) + 1) * den := by
      gcongr
    have htight : den = 2 * parts := by
      refine le_antisymm hgap ?_
      linarith
    -- now the quotient is as far above as rounding could move it, but it is not moved at all
    obtain ⟨q, hq⟩ := hsharp htight
    rw [hq, Nat.mul_comm den q, roundDiv_mul q hden] at hround
    have hle : num * parts ≤ g * den * parts := by
      calc num * parts = q * den := by rw [hq, Nat.mul_comm]
        _ ≤ g * parts * den := Nat.mul_le_mul_right _ hround
        _ = g * den * parts := Nat.mul_right_comm _ _ _
    exact hlt (Nat.le_of_mul_le_mul_right hle hparts)
  · intro hle
    apply roundDiv_le hden
    calc num * parts ≤ g * den * parts := Nat.mul_le_mul_right _ hle
      _ = g * parts * den := Nat.mul_right_comm _ _ _

/-! ## Rounding to a double -/

theorem exponent_bounds {num den : ℕ} (hnum : 0 < num) (hden : 0 < den) (hnum' : num ≤ 2 ^ 53)
    (hden' : den ≤ 2 ^ 53) : -54 < floorLog2 num den ∧ floorLog2 num den ≤ 53 := by
  obtain ⟨hlow, hhigh⟩ := floorLog2_spec hnum hden
  have hden₁ : (1 : ℚ) ≤ den := by exact_mod_cast hden
  have hden₂ : (den : ℚ) ≤ 2 ^ (53 : ℤ) := by exact_mod_cast hden'
  constructor
  · have hlt : (2 : ℚ) ^ (0 : ℤ) < 2 ^ (floorLog2 num den + 1 + 53) := by
      calc (2 : ℚ) ^ (0 : ℤ) ≤ num := by exact_mod_cast hnum
        _ < 2 ^ (floorLog2 num den + 1) * den := hhigh
        _ ≤ 2 ^ (floorLog2 num den + 1) * 2 ^ (53 : ℤ) := by gcongr
        _ = 2 ^ (floorLog2 num den + 1 + 53) := (zpow_add₀ two_ne_zero _ _).symm
    have hexp := (zpow_lt_zpow_iff_right₀ one_lt_two).mp hlt
    omega
  · have hle : (2 : ℚ) ^ floorLog2 num den ≤ 2 ^ (53 : ℤ) := by
      calc (2 : ℚ) ^ floorLog2 num den ≤ 2 ^ floorLog2 num den * den :=
            le_mul_of_one_le_right (by positivity) hden₁
        _ ≤ num := hlow
        _ ≤ 2 ^ (53 : ℤ) := by exact_mod_cast hnum'
    exact (zpow_le_zpow_iff_right₀ one_lt_two).mp hle

theorem inUnits_neg (num den t : ℕ) : inUnits num den (-t) = roundDiv (num * twoTo t) den := by
  have hnone : twoTo (-(t : ℤ)).toNat = 1 := by
    rw [Int.toNat_of_nonpos (by omega)]
    rfl
  rw [inUnits, hnone, neg_neg, Int.toNat_natCast, Nat.mul_one]

/-- Half a unit is at most the least distance of the quotient from an integer, and where it is as
much the quotient is a number of units. -/
theorem den_le_of_exponent {num den t : ℕ} {k : ℤ} (hk : k + t = 52)
    (hlow : (2 : ℚ) ^ k * den ≤ num) (hnum : num ≤ 2 ^ 53) :
    den ≤ 2 * twoTo t ∧ (den = 2 * twoTo t → den ∣ num * twoTo t) := by
  have hpow : (2 : ℚ) ^ k * (2 * twoTo t : ℕ) = (2 ^ 53 : ℕ) := by
    have hsum : k + 1 + t = 53 := by omega
    push_cast
    rw [twoTo_cast, ← mul_assoc, ← zpow_add_one₀ two_ne_zero, ← zpow_natCast,
      ← zpow_add₀ two_ne_zero, hsum]
    norm_num
  have hnum' : (num : ℚ) ≤ (2 ^ 53 : ℕ) := by exact_mod_cast hnum
  constructor
  · have hle : (2 : ℚ) ^ k * den ≤ 2 ^ k * (2 * twoTo t : ℕ) := by
      rw [hpow]
      exact hlow.trans hnum'
    exact_mod_cast le_of_mul_le_mul_left hle (by positivity)
  · intro htight
    rw [htight, hpow] at hlow
    have hfull : num = 2 ^ 53 := le_antisymm hnum (by exact_mod_cast hlow)
    refine ⟨2 ^ 52, ?_⟩
    rw [hfull, htight]
    ring

/-- The nearest double to a quotient lies on the same side of every natural number as the
quotient. -/
theorem nearest_le_iff {num den : ℕ} (hden : 0 < den) (hnum : num ≤ 2 ^ 53)
    (hden' : den ≤ 2 ^ 53) :
    ∃ m e, nearest num den = some (m, e) ∧
      ∀ g : ℕ, (m : ℚ) * 2 ^ e ≤ g ↔ num ≤ g * den := by
  by_cases hwhole : ∃ c, c ≤ 2 ^ 53 ∧ num = c * den
  · obtain ⟨c, hc, rfl⟩ := hwhole
    obtain ⟨m, e, hnearest, hvalue⟩ := nearest_exact hden hc
    refine ⟨m, e, hnearest, fun g => ?_⟩
    rw [hvalue, Nat.cast_le, Nat.mul_le_mul_right_iff hden]
  · have hpos : 0 < num := by
      refine Nat.pos_of_ne_zero fun hzero => hwhole ⟨0, by positivity, ?_⟩
      rw [hzero, Nat.zero_mul]
    obtain ⟨hk₁, hk₂⟩ := exponent_bounds hpos hden hnum hden'
    have hlow := (floorLog2_spec hpos hden).1
    generalize hk : floorLog2 num den = k at hk₁ hk₂ hlow
    -- the one quotient with a larger exponent is whole
    have hk₃ : k ≠ 53 := by
      rintro rfl
      have hlarge : 2 ^ 53 * den ≤ num := by exact_mod_cast hlow
      have hone : den = 1 := by omega
      refine hwhole ⟨num, hnum, ?_⟩
      rw [hone, Nat.mul_one]
    obtain ⟨t, ht⟩ : ∃ t : ℕ, k - 52 = -t := ⟨(52 - k).toNat, by omega⟩
    obtain ⟨hgap, hsharp⟩ := den_le_of_exponent (t := t) (by omega) hlow hnum
    have hE : max (floorLog2 num den - 52) leastExponent = -t := by
      rw [hk, ht, leastExponent]
      omega
    obtain ⟨m, e, hnearest, hvalue⟩ := nearest_of_pos hpos hE (by omega)
    refine ⟨m, e, hnearest, fun g => ?_⟩
    rw [hvalue, inUnits_neg, ← roundDiv_scaled_le_iff hden (twoTo_pos t) hgap hsharp]
    rw [zpow_neg, zpow_natCast, ← twoTo_cast, mul_inv_le_iff₀ (by exact_mod_cast twoTo_pos t)]
    exact_mod_cast Iff.rfl

/-! ## Comparing with an integer -/

/-- A mean is compared with a goal exactly, although it is rounded first. -/
theorem divInt?_leInt_iff {s : ℤ} {n : ℕ} (hn : 0 < n) (hn' : n ≤ 2 ^ 53) (hs : |s| ≤ 2 ^ 53) :
    ∃ x, divInt? s n = some x ∧ ∀ g : ℕ, x.leInt g = true ↔ s ≤ g * n := by
  have habs : s.natAbs ≤ 2 ^ 53 := by
    rw [Int.abs_eq_natAbs] at hs
    exact_mod_cast hs
  obtain ⟨m, e, hnearest, hside⟩ := nearest_le_iff hn habs hn'
  refine ⟨.finite (s < 0) m e, by rw [divInt?, hnearest]; rfl, fun g => ?_⟩
  rw [leInt_iff]
  by_cases hsign : s < 0
  · -- what is negative is below every goal, rounded or not
    have hvalue : (0 : ℚ) ≤ m * 2 ^ e := by positivity
    have hgoal : (0 : ℤ) ≤ g * n := by positivity
    have hcast : (0 : ℚ) ≤ (g : ℤ) := by positivity
    simp only [hsign, decide_true, if_true]
    exact iff_of_true (by linarith) (by linarith)
  · have hsame : (s.natAbs : ℤ) = s := Int.natAbs_of_nonneg (by omega)
    simp only [hsign, decide_false, Bool.false_eq_true, if_false, one_mul, Int.cast_natCast]
    rw [hside g, ← hsame]
    exact_mod_cast Iff.rfl

end Mailroom.Binary64
