import Mathlib.Data.Rat.Floor
import RegistrySearch.Numeral.Integer
import RegistrySearch.Proofs.Numeral.TotalOrder

/-!
# Integer parts

The integer part of a double-precision number is that of the rational number which its word denotes:
for a negative exponent the mantissa is divided, for any other it is shifted, and the sign is put in
front again, so that both signs are rounded toward zero. Rounding (`towardZero`) and clamping to 64
bits (`clamp`) keep order.
-/

namespace RegistrySearch.Numeral

/-! ### Rational numbers -/

/-- The integer part of a rational number: what is left of it toward zero. -/
def towardZero (q : ℚ) : Int := if 0 ≤ q then ⌊q⌋ else ⌈q⌉

theorem towardZero_of_nonneg {q : ℚ} (h : 0 ≤ q) : towardZero q = ⌊q⌋ := if_pos h

/-- Both signs have the same integer part, the sign apart. -/
theorem towardZero_neg {q : ℚ} (h : 0 ≤ q) : towardZero (-q) = -⌊q⌋ := by
  rw [towardZero]
  split
  · next hneg =>
    have hzero : q = 0 := by linarith
    rw [hzero, neg_zero, Int.floor_zero, neg_zero]
  · rw [Int.ceil_neg]

theorem towardZero_intCast (n : Int) : towardZero n = n := by
  rw [towardZero, Int.floor_intCast, Int.ceil_intCast, ite_self]

/-- Integer parts are in the order of the numbers. -/
theorem towardZero_mono {q r : ℚ} (h : q ≤ r) : towardZero q ≤ towardZero r := by
  rw [towardZero, towardZero]
  split <;> split
  · exact Int.floor_le_floor h
  · next hq hr => exact absurd (hq.trans h) hr
  · next hq hr =>
    have hceil : ⌈q⌉ ≤ 0 := Int.ceil_le.mpr (by exact_mod_cast (not_le.mp hq).le)
    exact hceil.trans (Int.floor_nonneg.mpr hr)
  · exact Int.ceil_le_ceil h

/-! ### Words -/

/-- The integer of 64 bits that is nearest to an integer. -/
def clamp (n : Int) : Int := max (-2 ^ 63) (min (2 ^ 63 - 1) n)

theorem clamp_mono {m n : Int} (h : m ≤ n) : clamp m ≤ clamp n :=
  max_le_max_left _ (min_le_min_left _ h)

/-- A word is its own nearest one. -/
theorem clamp_toInt (w : Int64) : clamp w.toInt = w.toInt := by
  have hlow := Int64.le_toInt w
  have hhigh := Int64.toInt_lt w
  rw [clamp, min_eq_right (by omega), max_eq_right hlow]

/-- The word nearest to an integer holds the nearest integer. -/
theorem toInt_clampInt64 (n : Int) : (clampInt64 n).toInt = clamp n := by
  rw [clampInt64, clamp]
  split
  · rw [Int64.toInt_minValue, min_eq_right (by omega), max_eq_left (by omega)]
  · split
    · rw [Int64.toInt_maxValue, min_eq_left (by omega), max_eq_right (by omega)]
    · rw [Int64.toInt_ofInt_of_le (by omega) (by omega), min_eq_right (by omega),
        max_eq_right (by omega)]

namespace Binary64

/-- The magnitude of a word is the integer part of its size. -/
theorem floor_size (x : Binary64) : ⌊x.size⌋ = x.magnitude := by
  rw [size, magnitude]
  split
  · next hexp =>
    -- no bits stand behind the point
    obtain ⟨k, hk⟩ := Int.eq_ofNat_of_zero_le hexp
    rw [hk, zpow_natCast, Int.toNat_natCast]
    exact_mod_cast Int.floor_natCast (R := ℚ) (x.mantissa * 2 ^ k)
  · next hexp =>
    obtain ⟨k, hk⟩ := Int.eq_ofNat_of_zero_le (Int.neg_nonneg_of_nonpos (not_le.mp hexp).le)
    have hsize : (x.mantissa : ℚ) * 2 ^ x.exponent = (x.mantissa : ℤ) / ((2 ^ k : Nat) : ℚ) := by
      rw [← neg_neg x.exponent, hk, zpow_neg, zpow_natCast, div_eq_mul_inv]
      push_cast
      rfl
    rw [hsize, Rat.floor_intCast_div_natCast, hk, Int.toNat_natCast]
    exact (Int.natCast_div _ _).symm

/-- **Integer parts.** The integer part of a word is that of its value. -/
theorem truncate_eq (x : Binary64) : x.truncate = towardZero x.value := by
  rw [truncate, value]
  split
  · rw [towardZero_neg x.size_nonneg, floor_size]
  · rw [towardZero_of_nonneg x.size_nonneg, floor_size]

end Binary64

end RegistrySearch.Numeral
