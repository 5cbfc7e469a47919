import Mathlib.Algebra.Order.Ring.Int
import Mathlib.Data.Int.ModEq
import MonkeyLang.Word64

/-
  Signed 64-bit numbers. They are what words of 64 bits stand
  for in two's complement, and wrapping an integer around gives
  the only one of them that is congruent to it. A quotient that
  is truncated toward zero is told by products alone.

  Main declarations:
    * `Word64.inRange_iff`, `Word64.inRange_iff_toInt`
    * `Word64.inRange_wrap`, `Word64.wrap_modEq`
    * `Word64.wrap_eq_bmod`, `Word64.quotient_eq_tdiv`
    * `Word64.IsTruncatedQuotient`
    * `Word64.isTruncatedQuotient_iff`
-/

------------------------------------------------------------
-- Limits
------------------------------------------------------------

namespace MonkeyLang

namespace Word64

theorem inRange_iff
    {value : Int} :
    inRange value = true ↔ -2 ^ 63 ≤ value ∧ value < 2 ^ 63 := by
  simp only [inRange, Bool.and_eq_true, decide_eq_true_eq]
  unfold minimum maximum
  omega

theorem inRange_of_nonneg
    {value : Int}
    (hLow : 0 ≤ value)
    (hHigh : value ≤ maximum) :
    inRange value = true := by
  have hMinimum : minimum ≤ 0 := by decide
  simp only [inRange, Bool.and_eq_true, decide_eq_true_eq]
  exact ⟨Int.le_trans hMinimum hLow, hHigh⟩

/- The numbers in range are the words of 64 bits, read as signed. -/
theorem inRange_iff_toInt
    {value : Int} :
    inRange value = true ↔ ∃ word : BitVec 64, word.toInt = value := by
  rw [inRange_iff]
  constructor
  · rintro ⟨hLow, hHigh⟩
    exact ⟨BitVec.ofInt 64 value,
      BitVec.toInt_ofInt_eq_self (by decide) hLow hHigh⟩
  · rintro ⟨word, rfl⟩
    exact ⟨BitVec.le_toInt word, BitVec.toInt_lt⟩

------------------------------------------------------------
-- Wrapping Around
------------------------------------------------------------

theorem inRange_wrap
    (n : Int) :
    inRange (wrap n) = true := by
  rw [inRange_iff]
  unfold wrap
  omega

/- Wrapping around changes a number by a multiple of 2 ^ 64. -/
theorem wrap_modEq
    (n : Int) :
    wrap n ≡ n [ZMOD 2 ^ 64] := by
  unfold Int.ModEq wrap
  omega

/- A number in range does not wrap around. -/
theorem wrap_of_inRange
    {n : Int}
    (hRange : inRange n = true) :
    wrap n = n := by
  rcases inRange_iff.mp hRange with ⟨hLow, hHigh⟩
  unfold wrap
  omega

/- Words of 64 bits, read as signed, wrap around in this way. -/
theorem wrap_eq_bmod
    (n : Int) :
    wrap n = n.bmod (2 ^ 64) := by
  rw [Int.bmod_def]
  unfold wrap
  split <;> omega

------------------------------------------------------------
-- Quotients
------------------------------------------------------------

/-
  The integer between zero and the exact quotient that is
  nearest to that: one unit more would be too far from zero.
-/
structure IsTruncatedQuotient
    (dividend divisor quotient : Int) :
    Prop where
  sign : 0 ≤ quotient * (dividend * divisor)
  le : quotient.natAbs * divisor.natAbs ≤ dividend.natAbs
  lt : dividend.natAbs < (quotient.natAbs + 1) * divisor.natAbs

/- The magnitude with its sign is what division toward zero gives. -/
theorem quotient_eq_tdiv
    (dividend divisor : Int) :
    quotient dividend divisor = dividend.tdiv divisor := by
  have hNonneg (n : Nat) : decide (Int.ofNat n < 0) = false :=
    decide_eq_false (Int.not_lt.mpr (Int.natCast_nonneg n))
  have hNegative (n : Nat) : decide (Int.negSucc n < 0) = true :=
    decide_eq_true (Int.negSucc_lt_zero n)
  unfold quotient
  cases dividend <;> cases divisor <;>
    simp only [hNonneg, hNegative] <;> rfl

variable {dividend divisor quotient : Int}

/- A quotient has the sign of the product, if it is not zero. -/
theorem sign_tdiv
    (dividend divisor : Int) :
    0 ≤ dividend.tdiv divisor * (dividend * divisor) := by
  rw [← Int.sign_nonneg_iff, Int.sign_mul, Int.sign_mul, Int.sign_tdiv]
  split
  · simp
  · exact mul_self_nonneg _

theorem isTruncatedQuotient_tdiv
    (hDivisor : divisor ≠ 0) :
    IsTruncatedQuotient dividend divisor (dividend.tdiv divisor) where
  sign := sign_tdiv dividend divisor
  le := by
    rw [Int.natAbs_tdiv]
    exact Nat.div_mul_le_self _ _
  lt := by
    rw [Int.natAbs_tdiv, Nat.mul_comm]
    exact Nat.lt_mul_div_succ _ (Int.natAbs_pos.mpr hDivisor)

/- No two integers are the truncated quotient. -/
theorem isTruncatedQuotient_iff
    (hDivisor : divisor ≠ 0) :
    IsTruncatedQuotient dividend divisor quotient ↔
      quotient = dividend.tdiv divisor := by
  constructor
  · intro hQuotient
    have hMagnitude :
        quotient.natAbs = (dividend.tdiv divisor).natAbs := by
      rw [Int.natAbs_tdiv]
      exact (Nat.div_eq_of_lt_le hQuotient.le hQuotient.lt).symm
    rcases Int.natAbs_eq_natAbs_iff.mp hMagnitude with hSame | hOpposite
    · exact hSame
    · have hSign := hQuotient.sign
      have hOther := sign_tdiv dividend divisor
      rw [hOpposite, Int.neg_mul] at hSign
      have hProduct :
          dividend.tdiv divisor * (dividend * divisor) = 0 := by
        omega
      have hZero : dividend.tdiv divisor = 0 := by
        rcases Int.mul_eq_zero.mp hProduct with hZero | hFactors
        · exact hZero
        · rcases Int.mul_eq_zero.mp hFactors with rfl | hNone
          · exact Int.zero_tdiv divisor
          · exact absurd hNone hDivisor
      rw [hOpposite, hZero]
      rfl
  · rintro rfl
    exact isTruncatedQuotient_tdiv hDivisor

end Word64

end MonkeyLang
