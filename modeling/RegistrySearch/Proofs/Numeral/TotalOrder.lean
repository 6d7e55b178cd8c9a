import Mathlib.Algebra.Order.Field.Power
import Mathlib.Data.Rat.Cast.Order
import Mathlib.Order.WithBot
import Mathlib.Tactic.Linarith
import Mathlib.Tactic.Positivity
import RegistrySearch.Numeral.Binary64

/-!
# The total order of double-precision numbers

Numbers are ordered by value, with the infinities at the ends and the negative zero below the
positive one. The not-a-numbers stand outside, those with the sign bit below all numbers and the
others above them; among those of one sign the fraction decides, whose highest bit is the one of the
quiet ones. This is `Below`, said over the exact values of words, and `below_iff` reads it off their
bits: no two words are of the same place.

All of it comes down to one fact, that among the words of one sign the greater ones denote the
greater values (`size_lt_size_iff`).
-/

namespace RegistrySearch.Numeral.Binary64

variable {x y : Binary64}

/-- The exact value of a finite word without its sign. -/
def size (x : Binary64) : ℚ := x.mantissa * 2 ^ x.exponent

/-- The exact value of a finite word. -/
def value (x : Binary64) : ℚ := if x.isNegative then -x.size else x.size

/-- The value of a word that is a number; the infinities are at the ends. -/
def extended (x : Binary64) : WithBot (WithTop ℚ) :=
  if x.isFinite then ((x.value : WithTop ℚ) : WithBot (WithTop ℚ))
  else if x.isNegative then ⊥
  else ((⊤ : WithTop ℚ) : WithBot (WithTop ℚ))

/-- The total order of words. -/
inductive Below (x y : Binary64) : Prop
  /-- Numbers by their values. -/
  | number (hx : ¬x.isNaN) (hy : ¬y.isNaN) (h : x.extended < y.extended)
  /-- The negative zero below the positive one. -/
  | zero (hx : x.isFinite ∧ x.value = 0) (hy : y.isFinite ∧ y.value = 0)
    (h : x.isNegative ∧ ¬y.isNegative)
  /-- A not-a-number below all numbers. -/
  | undefinedNumber (hx : x.isNaN ∧ x.isNegative) (hy : ¬y.isNaN)
  /-- A not-a-number above all numbers. -/
  | numberUndefined (hx : ¬x.isNaN) (hy : y.isNaN ∧ ¬y.isNegative)
  /-- Not-a-numbers by their signs. -/
  | sign (hx : x.isNaN ∧ x.isNegative) (hy : y.isNaN ∧ ¬y.isNegative)
  /-- Not-a-numbers without the sign bit by their fractions. -/
  | positive (hx : x.isNaN ∧ ¬x.isNegative) (hy : y.isNaN ∧ ¬y.isNegative)
    (h : x.fractionBits < y.fractionBits)
  /-- Those with it the other way round. -/
  | negative (hx : x.isNaN ∧ x.isNegative) (hy : y.isNaN ∧ y.isNegative)
    (h : y.fractionBits < x.fractionBits)

/-! ### Values of one sign -/

theorem fractionBits_lt (x : Binary64) : x.fractionBits < 2 ^ 52 := Nat.mod_lt _ (by decide)

theorem magnitudeBits_eq (x : Binary64) :
    x.magnitudeBits = 2 ^ 52 * x.exponentBits + x.fractionBits :=
  (Nat.div_add_mod x.magnitudeBits (2 ^ 52)).symm

theorem size_nonneg (x : Binary64) : 0 ≤ x.size := by
  rw [size]
  positivity

/-- A word is smaller than the first one with the next exponent. -/
theorem size_lt (x : Binary64) :
    x.size < 2 ^ 52 * 2 ^ (if x.exponentBits = 0 then -1074 else (x.exponentBits : Int) - 1074) := by
  have hfraction : (x.fractionBits : ℚ) < 2 ^ 52 := by exact_mod_cast x.fractionBits_lt
  rw [size, mantissa, exponent]
  split
  · exact mul_lt_mul_of_pos_right hfraction (by positivity)
  · have hstep : (2 : ℚ) ^ ((x.exponentBits : Int) - 1074) =
        2 * 2 ^ ((x.exponentBits : Int) - 1075) := by
      rw [← zpow_one_add₀ two_ne_zero]
      congr 1
      omega
    rw [hstep, ← mul_assoc]
    refine mul_lt_mul_of_pos_right ?_ (by positivity)
    push_cast
    linarith

/-- A word with a positive exponent is not smaller than the first one with it. -/
theorem le_size (h : x.exponentBits ≠ 0) : 2 ^ 52 * 2 ^ ((x.exponentBits : Int) - 1075) ≤ x.size := by
  rw [size, mantissa, exponent, if_neg h, if_neg h]
  refine mul_le_mul_of_nonneg_right ?_ (by positivity)
  push_cast
  linarith [(Nat.cast_nonneg x.fractionBits : (0 : ℚ) ≤ x.fractionBits)]

theorem size_lt_size (h : x.magnitudeBits < y.magnitudeBits) : x.size < y.size := by
  have hx := x.fractionBits_lt
  have hy := y.fractionBits_lt
  rw [magnitudeBits_eq, magnitudeBits_eq] at h
  obtain hlt | heq : x.exponentBits < y.exponentBits ∨ x.exponentBits = y.exponentBits := by omega
  · refine x.size_lt.trans_le (le_trans ?_ (le_size (by omega : y.exponentBits ≠ 0)))
    refine mul_le_mul_of_nonneg_left (zpow_le_zpow_right₀ one_le_two ?_) (by positivity)
    split <;> omega
  · have hexponent : x.exponent = y.exponent := by rw [exponent, exponent, heq]
    have hmantissa : x.mantissa < y.mantissa := by
      rw [mantissa, mantissa, heq]
      split <;> omega
    rw [size, size, hexponent]
    exact mul_lt_mul_of_pos_right (by exact_mod_cast hmantissa) (by positivity)

theorem size_congr (h : x.magnitudeBits = y.magnitudeBits) : x.size = y.size := by
  have hexponent : x.exponentBits = y.exponentBits := by rw [exponentBits, exponentBits, h]
  have hfraction : x.fractionBits = y.fractionBits := by rw [fractionBits, fractionBits, h]
  rw [size, size, mantissa, mantissa, exponent, exponent, hexponent, hfraction]

/-- Of two words the one with the greater bits denotes the greater value, signs apart. -/
theorem size_lt_size_iff : x.size < y.size ↔ x.magnitudeBits < y.magnitudeBits := by
  refine ⟨fun h => ?_, size_lt_size⟩
  obtain hlt | heq | hgt := Nat.lt_trichotomy x.magnitudeBits y.magnitudeBits
  · exact hlt
  · exact absurd h (size_congr heq).not_lt
  · exact absurd h (size_lt_size hgt).not_gt

theorem size_eq_zero_iff : x.size = 0 ↔ x.magnitudeBits = 0 := by
  have hzero : size ⟨0⟩ = 0 := by
    rw [size]
    exact mul_eq_zero_of_left (Nat.cast_eq_zero.mpr rfl) _
  constructor
  · intro h
    refine Nat.eq_zero_of_not_pos fun hpos => ?_
    have hlt : size ⟨0⟩ < x.size := size_lt_size hpos
    rw [hzero, h] at hlt
    exact lt_irrefl _ hlt
  · exact fun h => (size_congr h).trans hzero

/-! ### The order of places -/

theorem isFinite_iff : x.isFinite ↔ x.magnitudeBits < 2047 * 2 ^ 52 := by
  rw [isFinite, decide_eq_true_iff, magnitudeBits_eq]
  have := x.fractionBits_lt
  omega

theorem isNaN_iff : x.isNaN ↔ 2047 * 2 ^ 52 < x.magnitudeBits := by
  have hlt : x.magnitudeBits < 2 ^ 63 := Nat.mod_lt _ (by decide)
  have hfraction := x.fractionBits_lt
  rw [magnitudeBits_eq] at hlt
  rw [isNaN, Bool.and_eq_true, decide_eq_true_iff, decide_eq_true_iff, magnitudeBits_eq]
  omega

theorem orderKey_eq (x : Binary64) : x.orderKey =
    if x.isNegative then -(x.magnitudeBits : Int) - 1 else x.magnitudeBits := rfl

/-- Values are ordered as the places of their words, but for those of the two zeros. -/
theorem value_lt_iff : x.value < y.value ↔
    x.orderKey < y.orderKey ∧ ¬(x.magnitudeBits = 0 ∧ y.magnitudeBits = 0) := by
  have hx := x.size_nonneg
  have hy := y.size_nonneg
  rw [value, value, orderKey_eq, orderKey_eq]
  cases x.isNegative <;> cases y.isNegative <;> simp only [if_true, if_false, Bool.false_eq_true]
  case false.false =>
    rw [size_lt_size_iff]
    omega
  case false.true =>
    refine iff_of_false (by linarith) ?_
    omega
  case true.false =>
    have hzero : -x.size < y.size ↔ ¬(x.size = 0 ∧ y.size = 0) := by
      rw [not_and_or]
      constructor
      · intro h
        by_contra! hne
        rw [hne.1, hne.2, neg_zero] at h
        exact lt_irrefl _ h
      · rintro (h | h)
        · linarith [lt_of_le_of_ne hx (Ne.symm h)]
        · linarith [lt_of_le_of_ne hy (Ne.symm h)]
    rw [hzero, size_eq_zero_iff, size_eq_zero_iff]
    omega
  case true.true =>
    rw [neg_lt_neg_iff, size_lt_size_iff]
    omega

/-- So are numbers, infinities included. -/
theorem extended_lt_iff (hx : ¬x.isNaN) (hy : ¬y.isNaN) : x.extended < y.extended ↔
    x.orderKey < y.orderKey ∧ ¬(x.magnitudeBits = 0 ∧ y.magnitudeBits = 0) := by
  by_cases hxf : x.isFinite <;> by_cases hyf : y.isFinite
  · rw [extended, extended, if_pos hxf, if_pos hyf, WithBot.coe_lt_coe, WithTop.coe_lt_coe,
      value_lt_iff]
  all_goals
    -- only the sign of an infinity matters
    have hxbits : x.magnitudeBits ≤ 2047 * 2 ^ 52 := by rwa [isNaN_iff, Nat.not_lt] at hx
    have hybits : y.magnitudeBits ≤ 2047 * 2 ^ 52 := by rwa [isNaN_iff, Nat.not_lt] at hy
    rw [extended, extended, orderKey_eq, orderKey_eq]
    rw [isFinite_iff] at hxf hyf
    simp only [isFinite_iff, hxf, hyf, if_true, if_false]
    cases x.isNegative <;> cases y.isNegative <;>
      simp only [if_true, if_false, Bool.false_eq_true, WithBot.coe_lt_coe, WithTop.coe_lt_top,
        WithBot.bot_lt_coe, not_lt_bot, not_top_lt, lt_irrefl, true_iff, false_iff] <;> omega

theorem orderKey_of_isNegative (h : x.isNegative) : x.orderKey = -(x.magnitudeBits : Int) - 1 :=
  if_pos h

theorem orderKey_of_not_isNegative (h : ¬x.isNegative) : x.orderKey = x.magnitudeBits := if_neg h

theorem value_eq_zero (h : x.magnitudeBits = 0) : x.value = 0 := by
  rw [value, size_eq_zero_iff.mpr h, neg_zero, ite_self]

/-- Of two not-a-numbers of one sign the one with the smaller fraction has the smaller bits. -/
theorem fractionBits_lt_iff (hx : x.isNaN) (hy : y.isNaN) :
    x.fractionBits < y.fractionBits ↔ x.magnitudeBits < y.magnitudeBits := by
  have hexponent : ∀ z : Binary64, z.isNaN → z.exponentBits = 2047 := fun z hz => by
    rw [isNaN, Bool.and_eq_true, decide_eq_true_iff] at hz
    exact hz.1
  rw [magnitudeBits_eq, magnitudeBits_eq, hexponent x hx, hexponent y hy]
  omega

theorem Below.orderKey_lt (h : x.Below y) : x.orderKey < y.orderKey := by
  cases h with
  | number hx hy h => exact ((extended_lt_iff hx hy).mp h).1
  | zero hx hy h =>
    rw [orderKey_of_isNegative h.1, orderKey_of_not_isNegative h.2]
    omega
  | undefinedNumber hx hy =>
    have hxn := isNaN_iff.mp hx.1
    have hyn := isNaN_iff.not.mp hy
    rw [orderKey_of_isNegative hx.2, orderKey_eq]
    split <;> omega
  | numberUndefined hx hy =>
    have hxn := isNaN_iff.not.mp hx
    have hyn := isNaN_iff.mp hy.1
    rw [orderKey_of_not_isNegative hy.2, orderKey_eq]
    split <;> omega
  | sign hx hy =>
    rw [orderKey_of_isNegative hx.2, orderKey_of_not_isNegative hy.2]
    omega
  | positive hx hy h =>
    rw [fractionBits_lt_iff hx.1 hy.1] at h
    rw [orderKey_of_not_isNegative hx.2, orderKey_of_not_isNegative hy.2]
    exact_mod_cast h
  | negative hx hy h =>
    rw [fractionBits_lt_iff hy.1 hx.1] at h
    rw [orderKey_of_isNegative hx.2, orderKey_of_isNegative hy.2]
    omega

theorem below_of_orderKey_lt (h : x.orderKey < y.orderKey) : x.Below y := by
  by_cases hx : x.isNaN <;> by_cases hy : y.isNaN
  · by_cases hxn : x.isNegative <;> by_cases hyn : y.isNegative
    · rw [orderKey_of_isNegative hxn, orderKey_of_isNegative hyn] at h
      exact .negative ⟨hx, hxn⟩ ⟨hy, hyn⟩ ((fractionBits_lt_iff hy hx).mpr (by omega))
    · exact .sign ⟨hx, hxn⟩ ⟨hy, hyn⟩
    · rw [orderKey_of_not_isNegative hxn, orderKey_of_isNegative hyn] at h
      omega
    · rw [orderKey_of_not_isNegative hxn, orderKey_of_not_isNegative hyn] at h
      exact .positive ⟨hx, hxn⟩ ⟨hy, hyn⟩ ((fractionBits_lt_iff hx hy).mpr (by omega))
  · have hxlt := isNaN_iff.mp hx
    have hylt := isNaN_iff.not.mp hy
    refine .undefinedNumber ⟨hx, ?_⟩ hy
    by_contra hxn
    rw [orderKey_of_not_isNegative hxn, orderKey_eq] at h
    split at h <;> omega
  · have hxlt := isNaN_iff.not.mp hx
    have hylt := isNaN_iff.mp hy
    refine .numberUndefined hx ⟨hy, fun hyn => ?_⟩
    rw [orderKey_of_isNegative hyn, orderKey_eq] at h
    split at h <;> omega
  · by_cases hzero : x.magnitudeBits = 0 ∧ y.magnitudeBits = 0
    · -- two zeros of one sign would have one place
      have hsigns : x.isNegative ∧ ¬y.isNegative := by
        rw [orderKey_eq, orderKey_eq, hzero.1, hzero.2] at h
        revert h
        cases x.isNegative <;> cases y.isNegative <;> simp
      exact .zero ⟨isFinite_iff.mpr (by omega), value_eq_zero hzero.1⟩
        ⟨isFinite_iff.mpr (by omega), value_eq_zero hzero.2⟩ hsigns
    · exact .number hx hy ((extended_lt_iff hx hy).mpr ⟨h, hzero⟩)

/-- Words are ordered by their places. -/
theorem below_iff : x.Below y ↔ x.orderKey < y.orderKey :=
  ⟨Below.orderKey_lt, below_of_orderKey_lt⟩

end RegistrySearch.Numeral.Binary64
