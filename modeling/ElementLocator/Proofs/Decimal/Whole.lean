import ElementLocator.Decimal.Binary64
import Mathlib.Algebra.Group.Nat.Defs
/-! Whole numbers below 2^53 are doubles exactly: reading their digits loses nothing. -/
namespace ElementLocator.Decimal

theorem digitsLength {n k : Nat} (positive : 0 < k) (bound : n < 10 ^ k) :
    (digits n).length ≤ k := by
  induction k generalizing n with
  | zero => omega
  | succ k ih =>
    rw [digits]
    split
    · simp
    · rename_i large
      have deeper : 0 < k := by
        rcases Nat.eq_zero_or_pos k with rfl | h
        · omega
        · exact h
      have high : n / 10 < 10 ^ k := Nat.div_lt_of_lt_mul (by rw [← Nat.pow_succ']; exact bound)
      have := ih deeper high
      rw [List.length_append]
      simpa using this

theorem nearestWhole (m : Nat) : nearest m 1 = m := by simp [nearest, Nat.mod_one]

theorem binaryOrderWhole {n : Nat} (positive : n ≠ 0) : binaryOrder n 1 = Nat.log2 n := by
  have le : 2 ^ n.log2 ≤ n := Nat.log2_self_le positive
  have one : Nat.log2 1 = 0 := by decide
  simp [binaryOrder, dividedBy, one, Nat.not_lt.mpr le]

theorem ofRatioWhole {n : Nat} (positive : n ≠ 0) (bound : n < 2 * leastNormal) :
    Magnitude.ofRatio n 1 =
      .finite (n * 2 ^ (52 - n.log2)) (-((52 - n.log2 : Nat) : Int)) := by
  have small : n.log2 < 53 := (Nat.log2_lt positive).mpr bound
  have exponent : max ((n.log2 : Int) - 52) lowestExponent = -((52 - n.log2 : Nat) : Int) := by
    simp only [lowestExponent]
    omega
  have scaled : dividedBy 2 (-((52 - n.log2 : Nat) : Int)) n 1 = (n * 2 ^ (52 - n.log2), 1) := by
    simp only [dividedBy]
    split
    · have full : 52 - n.log2 = 0 := by omega
      simp [full]
    · simp
  have below : n * 2 ^ (52 - n.log2) < 2 * leastNormal := by
    have top : n < 2 ^ (n.log2 + 1) := Nat.lt_log2_self
    have whole : 2 ^ (n.log2 + 1) * 2 ^ (52 - n.log2) = 2 * leastNormal := by
      rw [← Nat.pow_add, show n.log2 + 1 + (52 - n.log2) = 53 by omega]
      rfl
    rw [← whole]
    exact Nat.mul_lt_mul_of_pos_right top (Nat.two_pow_pos _)
  have notCarried : n * 2 ^ (52 - n.log2) ≠ 2 * leastNormal := by omega
  have low : ¬ highestExponent < -((52 - n.log2 : Nat) : Int) := by
    simp only [highestExponent]
    omega
  simp only [Magnitude.ofRatio, if_neg positive, binaryOrderWhole positive, exponent, scaled,
    nearestWhole, if_neg notCarried, if_neg low]

theorem ratioOfScaled (n k : Nat) :
    (Magnitude.finite (n * 2 ^ k) (-(k : Int))).ratio = (n * 2 ^ k, 2 ^ k) := by
  simp [Magnitude.ratio, dividedBy]

theorem naturalOfScaled (n k : Nat) :
    (Magnitude.finite (n * 2 ^ k) (-(k : Int))).natural? = some n := by
  have positive : 0 < 2 ^ k := Nat.two_pow_pos k
  simp [Magnitude.natural?, ratioOfScaled, Nat.mul_mod_left, Nat.mul_div_cancel n positive]

theorem naturalOfDecimal {n : Nat} (positive : n ≠ 0) (bound : n < 2 * leastNormal) :
    (Magnitude.ofDecimal n 0).natural? = some n := by
  have short : (digits n).length ≤ 16 := digitsLength (by omega) (by
    simp only [leastNormal] at bound
    omega)
  have notTiny : ¬ (n = 0 ∨ ((digits n).length : Int) + 0 < -330) := by omega
  have notHuge : ¬ (310 : Int) < ((digits n).length : Int) + 0 := by omega
  have whole : dividedBy 10 (-0) n 1 = (n, 1) := by simp [dividedBy]
  simp only [Magnitude.ofDecimal, if_neg notTiny, if_neg notHuge, whole,
    ofRatioWhole positive bound]
  exact naturalOfScaled n _

end ElementLocator.Decimal
