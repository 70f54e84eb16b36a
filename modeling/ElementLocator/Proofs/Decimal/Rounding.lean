import ElementLocator.Proofs.Decimal.Whole
import Mathlib.Algebra.Order.Field.Power
import Mathlib.Data.Rat.Floor
import Mathlib.Tactic.FieldSimp
import Mathlib.Tactic.Linarith
import Mathlib.Tactic.NormNum
import Mathlib.Tactic.Positivity
import Mathlib.Tactic.Ring
/-! Rounding of quotients to double precision. Whatever is close enough to a double, compared with
the double itself, is rounded to it. -/
namespace ElementLocator.Decimal

variable {num den n d m : Nat} {e k : Int} {b : Nat}

theorem dividedByValue (positive : 0 < b) (e : Int) (num den : Nat) :
    ((dividedBy b e num den).1 : ℚ) / (dividedBy b e num den).2 =
      num / den / (b : ℚ) ^ e := by
  have nonzero : (b : ℚ) ≠ 0 := by positivity
  unfold dividedBy
  split
  · rename_i sign
    obtain ⟨k, rfl⟩ := Int.eq_ofNat_of_zero_le sign
    simp [div_div]
  · rename_i sign
    obtain ⟨k, rfl⟩ : ∃ k : Nat, e = -(k : Int) := ⟨(-e).toNat, by omega⟩
    simp [mul_div_right_comm]

theorem dividedByDen (positive : 0 < b) (whole : 0 < den) (e : Int) (num : Nat) :
    0 < (dividedBy b e num den).2 := by
  unfold dividedBy
  split
  · exact Nat.mul_pos whole (Nat.pow_pos positive)
  · exact whole

theorem dividedByNum (base : 0 < b) (positive : 0 < num) (e : Int) (den : Nat) :
    0 < (dividedBy b e num den).1 := by
  unfold dividedBy
  split
  · exact positive
  · exact Nat.mul_pos positive (Nat.pow_pos base)

theorem dividedByScaled (a : Nat) (e : Int) (num den : Nat) :
    dividedBy b e (a * num) (a * den) =
      (a * (dividedBy b e num den).1, a * (dividedBy b e num den).2) := by
  unfold dividedBy
  split <;> simp [Nat.mul_assoc]

theorem orderUnique {q : ℚ} (one : 1 < b) {j k : Int} (low : (b : ℚ) ^ j ≤ q)
    (high : q < (b : ℚ) ^ (j + 1)) (low' : (b : ℚ) ^ k ≤ q) (high' : q < (b : ℚ) ^ (k + 1)) :
    j = k := by
  have larger : (1 : ℚ) < b := by exact_mod_cast one
  have left : j < k + 1 := (zpow_lt_zpow_iff_right₀ larger).mp (lt_of_le_of_lt low high')
  have right : k < j + 1 := (zpow_lt_zpow_iff_right₀ larger).mp (lt_of_le_of_lt low' high)
  omega

theorem dividedByLess (positive : 0 < b) (whole : 0 < den) (e : Int) (num : Nat) :
    (dividedBy b e num den).1 < (dividedBy b e num den).2 ↔
      (num : ℚ) / den < (b : ℚ) ^ e := by
  have under : (0 : ℚ) < (dividedBy b e num den).2 := by
    exact_mod_cast dividedByDen positive whole e num
  have power : (0 : ℚ) < (b : ℚ) ^ e := by positivity
  rw [← div_lt_one power, ← dividedByValue positive, div_lt_one under, Nat.cast_lt]

theorem quotientBounds {i j : Nat} (one : 1 < b) (numLow : b ^ i ≤ num)
    (numHigh : num < b ^ (i + 1)) (denLow : b ^ j ≤ den) (denHigh : den < b ^ (j + 1)) :
    (b : ℚ) ^ ((i : Int) - j - 1) ≤ num / den ∧
      (num : ℚ) / den < (b : ℚ) ^ ((i : Int) - j + 1) := by
  have positive : (0 : ℚ) < b := by exact_mod_cast (show 0 < b by omega)
  have nonzero : (b : ℚ) ≠ 0 := ne_of_gt positive
  have numLow : (b : ℚ) ^ i ≤ num := by exact_mod_cast numLow
  have numHigh : (num : ℚ) < (b : ℚ) ^ (i + 1) := by exact_mod_cast numHigh
  have denLow : (b : ℚ) ^ j ≤ den := by exact_mod_cast denLow
  have denHigh : (den : ℚ) < (b : ℚ) ^ (j + 1) := by exact_mod_cast denHigh
  have denPos : (0 : ℚ) < den := lt_of_lt_of_le (by positivity) denLow
  have low : (b : ℚ) ^ ((i : Int) - j - 1) = (b : ℚ) ^ i / (b : ℚ) ^ (j + 1) := by
    rw [← zpow_natCast, ← zpow_natCast, ← zpow_sub₀ nonzero]
    congr 1
    omega
  have high : (b : ℚ) ^ ((i : Int) - j + 1) = (b : ℚ) ^ (i + 1) / (b : ℚ) ^ j := by
    rw [← zpow_natCast, ← zpow_natCast, ← zpow_sub₀ nonzero]
    congr 1
    omega
  rw [low, high]
  constructor
  · exact div_le_div₀ (by positivity) numLow denPos denHigh.le
  · exact div_lt_div₀ numHigh denLow (by positivity) (by positivity)

theorem quotientOrder {i j : Nat} (one : 1 < b) (numLow : b ^ i ≤ num)
    (numHigh : num < b ^ (i + 1)) (denLow : b ^ j ≤ den) (denHigh : den < b ^ (j + 1))
    {k : Int} (choice : k = if (dividedBy b ((i : Int) - j) num den).1 <
      (dividedBy b ((i : Int) - j) num den).2 then (i : Int) - j - 1 else (i : Int) - j) :
    (b : ℚ) ^ k ≤ num / den ∧ (num : ℚ) / den < (b : ℚ) ^ (k + 1) := by
  have denPos : 0 < den := lt_of_lt_of_le (Nat.pow_pos (by omega)) denLow
  obtain ⟨low, high⟩ := quotientBounds one numLow numHigh denLow denHigh
  split at choice
  · rename_i less
    rw [dividedByLess (by omega) denPos] at less
    rw [choice, Int.sub_add_cancel]
    exact ⟨low, less⟩
  · rename_i noLess
    rw [dividedByLess (by omega) denPos, not_lt] at noLess
    rw [choice]
    exact ⟨noLess, high⟩

theorem binaryOrderBounds (positive : 0 < num) (whole : 0 < den) :
    (2 : ℚ) ^ binaryOrder num den ≤ num / den ∧
      (num : ℚ) / den < (2 : ℚ) ^ (binaryOrder num den + 1) :=
  quotientOrder (b := 2) (by decide) (Nat.log2_self_le (by omega)) Nat.lt_log2_self
    (Nat.log2_self_le (by omega)) Nat.lt_log2_self rfl

def Closest (c n d : Nat) : Prop :=
  c = n / d ∧ 2 * (n % d) ≤ d ∨ c = n / d + 1 ∧ d ≤ 2 * (n % d)

theorem closestError {c : Nat} (whole : 0 < d) (closest : Closest c n d) :
    2 * ((n : ℚ) / d) ≤ 2 * c + 1 ∧ 2 * (c : ℚ) ≤ 2 * (n / d) + 1 := by
  have parts : n / d * d + n % d = n := Nat.div_add_mod' n d
  have next : (n / d + 1) * d = n / d * d + d := Nat.succ_mul _ _
  have small : n % d < d := Nat.mod_lt n whole
  have bounds : 2 * n ≤ 2 * (c * d) + d ∧ 2 * (c * d) ≤ 2 * n + d := by
    rcases closest with ⟨rfl, half⟩ | ⟨rfl, half⟩
    · omega
    · rw [next]
      omega
  have positive : (0 : ℚ) < d := by exact_mod_cast whole
  have low : (2 * n : ℚ) ≤ 2 * (c * d) + d := by exact_mod_cast bounds.1
  have high : (2 * (c * d) : ℚ) ≤ 2 * n + d := by exact_mod_cast bounds.2
  have back : (n : ℚ) / d * d = n := div_mul_cancel₀ _ positive.ne'
  constructor
  · refine le_of_mul_le_mul_right ?_ positive
    calc 2 * ((n : ℚ) / d) * d = 2 * n := by rw [mul_assoc, back]
      _ ≤ 2 * (c * d) + d := low
      _ = (2 * c + 1) * d := by ring
  · refine le_of_mul_le_mul_right ?_ positive
    calc 2 * (c : ℚ) * d = 2 * (c * d) := by ring
      _ ≤ 2 * n + d := high
      _ = (2 * (n / d) + 1) * d := by rw [add_mul, mul_assoc, back, one_mul]

theorem nearestClosest (n d : Nat) : Closest (nearest n d) n d := by
  unfold nearest Closest
  simp only
  split
  · exact Or.inl ⟨rfl, by omega⟩
  · split
    · exact Or.inr ⟨rfl, by omega⟩
    · split
      · exact Or.inl ⟨rfl, by omega⟩
      · exact Or.inr ⟨rfl, by omega⟩

theorem nearestError (whole : 0 < d) :
    2 * ((n : ℚ) / d) ≤ 2 * nearest n d + 1 ∧ 2 * (nearest n d : ℚ) ≤ 2 * (n / d) + 1 :=
  closestError whole (nearestClosest n d)

theorem nearestClose (whole : 0 < d) (below : 2 * (m : ℚ) - 1 < 2 * (n / d))
    (above : 2 * ((n : ℚ) / d) < 2 * m + 1) : nearest n d = m := by
  obtain ⟨low, high⟩ := nearestError (n := n) whole
  have noLess : (m : ℚ) < nearest n d + 1 := by linarith
  have noMore : (nearest n d : ℚ) < m + 1 := by linarith
  have noLess : m < nearest n d + 1 := by exact_mod_cast noLess
  have noMore : nearest n d < m + 1 := by exact_mod_cast noMore
  omega

theorem nearestScaled {a : Nat} (positive : 0 < a) (n d : Nat) :
    nearest (a * n) (a * d) = nearest n d := by
  have more (x y : Nat) : a * x < a * y ↔ x < y := Nat.mul_lt_mul_left positive
  have twice : 2 * (a * (n % d)) = a * (2 * (n % d)) := by ring
  simp only [nearest, Nat.mul_div_mul_left n d positive, Nat.mul_mod_mul_left, twice, more]

structure Canonical (mantissa : Nat) (exponent : Int) : Prop where
  lowest : lowestExponent ≤ exponent
  highest : exponent ≤ highestExponent
  below : mantissa < 2 * leastNormal
  normal : leastNormal ≤ mantissa ∨ exponent = lowestExponent

theorem roundingExponent (positive : 0 < num) (whole : 0 < den) :
    let exponent := max (binaryOrder num den - 52) lowestExponent
    (leastNormal ≤ (num : ℚ) / den / 2 ^ exponent ∨ exponent = lowestExponent) ∧
      (num : ℚ) / den / 2 ^ exponent < 2 * leastNormal := by
  intro exponent
  obtain ⟨low, high⟩ := binaryOrderBounds positive whole
  have power : (0 : ℚ) < 2 ^ exponent := by positivity
  have least : (leastNormal : ℚ) = 2 ^ (52 : ℤ) := by norm_num [leastNormal]
  have twice : (2 * leastNormal : ℚ) = 2 ^ (53 : ℤ) := by norm_num [leastNormal]
  constructor
  · by_cases normal : lowestExponent ≤ binaryOrder num den - 52
    · have same : exponent = binaryOrder num den - 52 := max_eq_left normal
      refine Or.inl ((le_div_iff₀ power).mpr ?_)
      rwa [least, ← zpow_add₀ two_ne_zero, same, add_sub_cancel]
    · exact Or.inr (max_eq_right (by omega))
  · rw [div_lt_iff₀ power, twice, ← zpow_add₀ two_ne_zero]
    have bound : binaryOrder num den + 1 ≤ 53 + exponent := by omega
    exact lt_of_lt_of_le high (zpow_le_zpow_right₀ one_le_two bound)

theorem roundingExponentUnique (positive : 0 < num) (whole : 0 < den)
    (lowest : lowestExponent ≤ e)
    (normal : leastNormal ≤ (num : ℚ) / den / 2 ^ e ∨ e = lowestExponent)
    (below : (num : ℚ) / den / 2 ^ e < 2 * leastNormal) :
    max (binaryOrder num den - 52) lowestExponent = e := by
  obtain ⟨low, high⟩ := binaryOrderBounds positive whole
  have power : (0 : ℚ) < 2 ^ e := by positivity
  have least : (leastNormal : ℚ) = 2 ^ (52 : ℤ) := by norm_num [leastNormal]
  have twice : (2 * leastNormal : ℚ) = 2 ^ (53 : ℤ) := by norm_num [leastNormal]
  rw [div_lt_iff₀ power, twice, ← zpow_add₀ two_ne_zero] at below
  have noMore : binaryOrder num den < 53 + e :=
    (zpow_lt_zpow_iff_right₀ one_lt_two).mp (lt_of_le_of_lt low below)
  rcases normal with normal | rfl
  · rw [le_div_iff₀ power, least, ← zpow_add₀ two_ne_zero] at normal
    have noLess : 52 + e < binaryOrder num den + 1 :=
      (zpow_lt_zpow_iff_right₀ one_lt_two).mp (lt_of_le_of_lt normal high)
    omega
  · omega

theorem ofRatioPlain (positive : 0 < num)
    (exponent : max (binaryOrder num den - 52) lowestExponent = e) (highest : e ≤ highestExponent)
    (near : nearest (dividedBy 2 e num den).1 (dividedBy 2 e num den).2 = m)
    (noCarry : m ≠ 2 * leastNormal) : Magnitude.ofRatio num den = .finite m e := by
  simp only [Magnitude.ofRatio, if_neg (show num ≠ 0 by omega), exponent, near, if_neg noCarry,
    if_neg (show ¬ highestExponent < e by omega)]

theorem ofRatioCarried (positive : 0 < num)
    (exponent : max (binaryOrder num den - 52) lowestExponent = e)
    (highest : e + 1 ≤ highestExponent)
    (near : nearest (dividedBy 2 e num den).1 (dividedBy 2 e num den).2 = 2 * leastNormal) :
    Magnitude.ofRatio num den = .finite leastNormal (e + 1) := by
  simp only [Magnitude.ofRatio, if_neg (show num ≠ 0 by omega), exponent, near, if_true,
    if_neg (show ¬ highestExponent < e + 1 by omega)]

theorem ofRatioClose (canonical : Canonical m e) (whole : 0 < den) (positive : 0 < num)
    (below : ((m : ℚ) - num / den / 2 ^ e) * (2 * 10 ^ 16) ≤ m)
    (above : ((num : ℚ) / den / 2 ^ e - m) * (2 * 10 ^ 16) ≤ m) :
    Magnitude.ofRatio num den = .finite m e := by
  have small : (m : ℚ) + 1 ≤ 2 * leastNormal := by exact_mod_cast canonical.below
  have scale (k : Int) := dividedByValue (b := 2) (by decide) k num den
  have parts (k : Int) := dividedByDen (b := 2) (by decide) whole k num
  norm_num at scale
  norm_num [leastNormal] at small
  by_cases here : leastNormal ≤ (num : ℚ) / den / 2 ^ e ∨ e = lowestExponent
  · have exponent := roundingExponentUnique positive whole canonical.lowest here
      (by norm_num [leastNormal]; linarith)
    refine ofRatioPlain positive exponent canonical.highest (nearestClose (parts e) ?_ ?_)
      canonical.below.ne
    · rw [scale]
      linarith
    · rw [scale]
      linarith
  · rw [not_or, not_le] at here
    obtain ⟨less, higher⟩ := here
    norm_num [leastNormal] at less
    have least : m = leastNormal := by
      have low := canonical.normal.resolve_right higher
      have high : (m : ℚ) < 4503599627370497 := by linarith
      have high : m < 4503599627370497 := by exact_mod_cast high
      unfold leastNormal at *
      omega
    subst least
    have double : (num : ℚ) / den / 2 ^ (e - 1) = 2 * (num / den / 2 ^ e) := by
      rw [zpow_sub_one₀ two_ne_zero]
      field_simp
    have lowest := canonical.lowest
    norm_num [leastNormal] at below above
    have exponent := roundingExponentUnique positive whole (e := e - 1) (by omega)
      (by rw [double]; norm_num [leastNormal]; left; linarith)
      (by rw [double]; norm_num [leastNormal]; linarith)
    have carried := ofRatioCarried positive exponent
      (by rw [Int.sub_add_cancel]; exact canonical.highest)
      (nearestClose (m := 2 * leastNormal) (parts (e - 1))
        (by rw [scale, double]; norm_num [leastNormal]; linarith)
        (by rw [scale, double]; norm_num [leastNormal]; linarith))
    rwa [Int.sub_add_cancel] at carried

theorem ofRatioRounded (positive : 0 < num) (rounded : Magnitude.ofRatio num den = .finite m e) :
    ∃ k, k = max (binaryOrder num den - 52) lowestExponent ∧ e ≤ highestExponent ∧
      (e = k ∧ m ≠ 2 * leastNormal ∧
          nearest (dividedBy 2 k num den).1 (dividedBy 2 k num den).2 = m ∨
        e = k + 1 ∧ m = leastNormal ∧
          nearest (dividedBy 2 k num den).1 (dividedBy 2 k num den).2 = 2 * leastNormal) := by
  refine ⟨_, rfl, ?_⟩
  simp only [Magnitude.ofRatio, if_neg (show num ≠ 0 by omega)] at rounded
  by_cases carry : nearest (dividedBy 2 (max (binaryOrder num den - 52) lowestExponent) num den).1
      (dividedBy 2 (max (binaryOrder num den - 52) lowestExponent) num den).2 = 2 * leastNormal
  · simp only [if_pos carry] at rounded
    split at rounded
    · cases rounded
    · rename_i within
      cases rounded
      exact ⟨Int.not_lt.mp within, Or.inr ⟨rfl, rfl, carry⟩⟩
  · simp only [if_neg carry] at rounded
    split at rounded
    · cases rounded
    · rename_i within
      cases rounded
      exact ⟨Int.not_lt.mp within, Or.inl ⟨rfl, carry, rfl⟩⟩

theorem scaledError (whole : 0 < den) (k : Int)
    (near : nearest (dividedBy 2 k num den).1 (dividedBy 2 k num den).2 = m) :
    2 * ((num : ℚ) / den / 2 ^ k) ≤ 2 * m + 1 ∧ 2 * (m : ℚ) ≤ 2 * (num / den / 2 ^ k) + 1 := by
  have scale := dividedByValue (b := 2) (by decide) k num den
  have error := nearestError (n := (dividedBy 2 k num den).1)
    (dividedByDen (b := 2) (by decide) whole k num)
  rwa [near, scale] at error

theorem ofRatioCanonical (positive : 0 < num) (whole : 0 < den)
    (rounded : Magnitude.ofRatio num den = .finite m e) : Canonical m e := by
  obtain ⟨k, exponent, highest, plain | carried⟩ := ofRatioRounded positive rounded
  · obtain ⟨rfl, noCarry, near⟩ := plain
    obtain ⟨normal, below⟩ := roundingExponent positive whole
    rw [← exponent] at normal below
    obtain ⟨low, high⟩ := scaledError whole _ near
    have most : m < 2 * leastNormal + 1 := by
      have : (m : ℚ) < 2 * leastNormal + 1 := by linarith
      exact_mod_cast this
    have least : leastNormal ≤ m ∨ e = lowestExponent := by
      refine normal.imp_left fun normal => ?_
      have : (leastNormal : ℚ) < m + 1 := by linarith
      have : leastNormal < m + 1 := by exact_mod_cast this
      omega
    exact ⟨by omega, highest, by omega, least⟩
  · obtain ⟨rfl, rfl, _⟩ := carried
    exact ⟨by omega, highest, by decide, Or.inl (Nat.le_refl _)⟩

theorem ofRatioError (positive : 0 < num) (whole : 0 < den)
    (rounded : Magnitude.ofRatio num den = .finite m e) :
    2 * ((num : ℚ) / den / 2 ^ e) ≤ 2 * m + 1 ∧ 2 * (m : ℚ) ≤ 2 * (num / den / 2 ^ e) + 1 := by
  obtain ⟨k, _, _, plain | carried⟩ := ofRatioRounded positive rounded
  · obtain ⟨rfl, _, near⟩ := plain
    exact scaledError whole _ near
  · obtain ⟨rfl, rfl, near⟩ := carried
    obtain ⟨low, high⟩ := scaledError whole _ near
    have double : (num : ℚ) / den / 2 ^ k = 2 * (num / den / 2 ^ (k + 1)) := by
      rw [zpow_add_one₀ two_ne_zero]
      field_simp
    rw [double] at low high
    push_cast at low high
    constructor <;> linarith

theorem ofRatioScaled {a : Nat} (factor : 0 < a) (positive : 0 < num) (whole : 0 < den) :
    Magnitude.ofRatio (a * num) (a * den) = Magnitude.ofRatio num den := by
  have scaled : 0 < a * num := Nat.mul_pos factor positive
  have same : ((a * num : Nat) : ℚ) / (a * den : Nat) = num / den := by
    push_cast
    exact mul_div_mul_left _ _ (by positivity)
  obtain ⟨low, high⟩ := binaryOrderBounds scaled (Nat.mul_pos factor whole)
  obtain ⟨low', high'⟩ := binaryOrderBounds positive whole
  rw [same] at low high
  have order : binaryOrder (a * num) (a * den) = binaryOrder num den :=
    orderUnique (b := 2) (by decide) low high low' high'
  simp only [Magnitude.ofRatio, order, dividedByScaled, nearestScaled factor,
    if_neg (show a * num ≠ 0 by omega), if_neg (show num ≠ 0 by omega)]

end ElementLocator.Decimal
