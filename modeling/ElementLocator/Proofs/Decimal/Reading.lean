import ElementLocator.Proofs.Decimal.Rounding
/-! Decimals as doubles. Zeros may be moved between the digits and the exponent, and a decimal that
is close enough to a double is read as that double. -/
namespace ElementLocator.Decimal

variable {c m n : Nat} {e ex : Int}

theorem digitsTen (nonzero : c ≠ 0) : (digits (10 * c)).length = (digits c).length + 1 := by
  rw [digits, if_neg (by omega), Nat.mul_div_cancel_left c (by decide), List.length_append]
  rfl

theorem digitsBounds (nonzero : n ≠ 0) :
    10 ^ ((digits n).length - 1) ≤ n ∧ n < 10 ^ (digits n).length := by
  induction n using digits.induct with
  | case1 n small =>
    rw [digits, if_pos small]
    simp
    omega
  | case2 n large ih =>
    obtain ⟨low, high⟩ := ih (by omega)
    have nonempty : (digits (n / 10)).length ≠ 0 := by simp [digitsNonempty]
    rw [digits, if_neg large, List.length_append, List.length_singleton, Nat.add_sub_cancel]
    constructor
    · rw [← Nat.sub_add_cancel (Nat.one_le_iff_ne_zero.mpr nonempty), Nat.pow_succ]
      omega
    · rw [Nat.pow_succ]
      omega

theorem decimalPositive (nonzero : c ≠ 0) (k : Int) :
    0 < (dividedBy 10 k c 1).1 ∧ 0 < (dividedBy 10 k c 1).2 :=
  ⟨dividedByNum (by decide) (Nat.pos_of_ne_zero nonzero) k 1,
    dividedByDen (by decide) (by decide) k c⟩

theorem ofDecimalTen (nonzero : c ≠ 0) (e : Int) :
    Magnitude.ofDecimal (10 * c) e = Magnitude.ofDecimal c (e + 1) := by
  have order : ((digits (10 * c)).length : Int) + e = (digits c).length + (e + 1) := by
    rw [digitsTen nonzero]
    push_cast
    omega
  have ratio : Magnitude.ofRatio (dividedBy 10 (-e) (10 * c) 1).1 (dividedBy 10 (-e) (10 * c) 1).2 =
      Magnitude.ofRatio (dividedBy 10 (-(e + 1)) c 1).1 (dividedBy 10 (-(e + 1)) c 1).2 := by
    by_cases sign : e < 0
    · obtain ⟨k, rfl⟩ : ∃ k : Nat, e = -(k + 1 : Int) := ⟨(-e - 1).toNat, by omega⟩
      have more : dividedBy 10 (-(-(k + 1 : Int))) (10 * c) 1 = (10 * c, 10 * 10 ^ k) := by
        simp only [dividedBy, neg_neg, if_pos (show (0 : Int) ≤ k + 1 by omega)]
        rw [show ((k : Int) + 1).toNat = k + 1 by omega, Nat.pow_eq, Nat.pow_succ, Nat.one_mul,
          Nat.mul_comm (10 ^ k)]
      have less : dividedBy 10 (-(-(k + 1 : Int) + 1)) c 1 = (c, 10 ^ k) := by
        simp only [dividedBy, show -(-(k + 1 : Int) + 1) = k by omega,
          if_pos (show (0 : Int) ≤ k by omega), Int.toNat_natCast, Nat.pow_eq, Nat.one_mul]
      rw [more, less]
      exact ofRatioScaled (by decide) (Nat.pos_of_ne_zero nonzero) (Nat.pow_pos (by decide))
    · obtain ⟨k, rfl⟩ := Int.eq_ofNat_of_zero_le (Int.not_lt.mp sign)
      have more : dividedBy 10 (-(k : Int)) (10 * c) 1 = (10 * c * 10 ^ k, 1) := by
        unfold dividedBy
        split
        · have : k = 0 := by omega
          subst this
          simp
        · simp
      have less : dividedBy 10 (-((k : Int) + 1)) c 1 = (c * 10 ^ (k + 1), 1) := by
        simp only [dividedBy, if_neg (show ¬ (0 : Int) ≤ -((k : Int) + 1) by omega), neg_neg,
          Nat.pow_eq]
        rw [show ((k : Int) + 1).toNat = k + 1 by omega]
      rw [more, less, Nat.pow_succ, Nat.mul_comm 10 c, Nat.mul_assoc, Nat.mul_comm 10]
  simp only [Magnitude.ofDecimal, order, ratio]
  simp [nonzero]

theorem ofDecimalShift (nonzero : c ≠ 0) (j : Nat) (e : Int) :
    Magnitude.ofDecimal (c * 10 ^ j) e = Magnitude.ofDecimal c (e + j) := by
  induction j generalizing e with
  | zero => simp
  | succ j ih =>
    have more : c * 10 ^ j ≠ 0 := Nat.mul_ne_zero nonzero (by positivity)
    rw [Nat.pow_succ, ← Nat.mul_assoc, Nat.mul_comm, ofDecimalTen more, ih]
    congr 1
    push_cast
    omega

theorem ofDecimalCanonical (read : Magnitude.ofDecimal c ex = .finite m e) : Canonical m e := by
  unfold Magnitude.ofDecimal at read
  simp only at read
  split at read
  · cases read
    exact ⟨Int.le_refl _, by decide, by decide, Or.inr rfl⟩
  · rename_i noZero
    split at read
    · cases read
    · obtain ⟨num, den⟩ := decimalPositive (not_or.mp noZero).1 (-ex)
      exact ofRatioCanonical num den read

theorem tenWindow : (10 : ℚ) ^ (-330 : ℤ) < 2 ^ (-1075 : ℤ) ∧
    (2 : ℚ) ^ (1025 : ℤ) < 10 ^ (310 : ℤ) := by
  rw [zpow_neg, zpow_neg, zpow_ofNat, zpow_ofNat, zpow_ofNat, zpow_ofNat]
  constructor
  · refine inv_strictAnti₀ (by positivity) ?_
    calc (2 : ℚ) ^ (1075 : ℕ) ≤ 2 ^ (108 * 10) := pow_le_pow_right₀ one_le_two (by decide)
      _ = (2 ^ 108) ^ 10 := pow_mul 2 108 10
      _ < (10 ^ 33) ^ 10 := pow_lt_pow_left₀ (by norm_num) (by positivity) (by decide)
      _ = 10 ^ (330 : ℕ) := (pow_mul 10 33 10).symm
  · calc (2 : ℚ) ^ (1025 : ℕ) = (2 ^ 205) ^ 5 := pow_mul 2 205 5
      _ < (10 ^ 62) ^ 5 := pow_lt_pow_left₀ (by norm_num) (by positivity) (by decide)
      _ = 10 ^ (310 : ℕ) := (pow_mul 10 62 5).symm

theorem decimalBounds (nonzero : c ≠ 0) (ex : Int) :
    (10 : ℚ) ^ ((digits c).length + ex - 1) ≤ c * 10 ^ ex ∧
      (c : ℚ) * 10 ^ ex < 10 ^ ((digits c).length + ex) := by
  obtain ⟨low, high⟩ := digitsBounds nonzero
  have nonempty : (digits c).length ≠ 0 := by simp [digitsNonempty]
  have power : (0 : ℚ) < 10 ^ ex := by positivity
  have low : (10 : ℚ) ^ ((digits c).length - 1) ≤ c := by exact_mod_cast low
  have high : (c : ℚ) < 10 ^ (digits c).length := by exact_mod_cast high
  have before : ((digits c).length : Int) + ex - 1 = ((digits c).length - 1 : Nat) + ex := by omega
  constructor
  · rw [before, zpow_add₀ (by norm_num), zpow_natCast]
    exact mul_le_mul_of_nonneg_right low power.le
  · rw [zpow_add₀ (by norm_num), zpow_natCast]
    exact mul_lt_mul_of_pos_right high power

theorem ofDecimalWithin (nonzero : c ≠ 0) (low : (2 : ℚ) ^ (-1075 : ℤ) ≤ c * 10 ^ ex)
    (high : (c : ℚ) * 10 ^ ex ≤ 2 ^ (1025 : ℤ)) : Magnitude.ofDecimal c ex =
      Magnitude.ofRatio (dividedBy 10 (-ex) c 1).1 (dividedBy 10 (-ex) c 1).2 := by
  obtain ⟨least, most⟩ := decimalBounds nonzero ex
  obtain ⟨small, large⟩ := tenWindow
  have notTiny : (-330 : Int) < (digits c).length + ex := by
    refine (zpow_lt_zpow_iff_right₀ (a := (10 : ℚ)) (by norm_num)).mp ?_
    exact lt_trans (lt_of_lt_of_le small low) most
  have notHuge : ((digits c).length : Int) + ex - 1 < 310 := by
    refine (zpow_lt_zpow_iff_right₀ (a := (10 : ℚ)) (by norm_num)).mp ?_
    exact lt_of_le_of_lt (le_trans least high) large
  simp only [Magnitude.ofDecimal,
    if_neg (show ¬ (c = 0 ∨ ((digits c).length : Int) + ex < -330) by omega),
    if_neg (show ¬ (310 : Int) < ((digits c).length : Int) + ex by omega)]

theorem ofDecimalClose (canonical : Canonical m e) (positive : 0 < m) (nonzero : c ≠ 0)
    (below : ((m : ℚ) - c * 10 ^ ex / 2 ^ e) * (2 * 10 ^ 16) ≤ m)
    (above : ((c : ℚ) * 10 ^ ex / 2 ^ e - m) * (2 * 10 ^ 16) ≤ m) :
    Magnitude.ofDecimal c ex = .finite m e := by
  obtain ⟨num, den⟩ := decimalPositive nonzero (-ex)
  have value : ((dividedBy 10 (-ex) c 1).1 : ℚ) / (dividedBy 10 (-ex) c 1).2 = c * 10 ^ ex := by
    rw [dividedByValue (by decide)]
    simp [zpow_neg]
  have power : (0 : ℚ) < 2 ^ e := by positivity
  have one : (1 : ℚ) ≤ m := by exact_mod_cast positive
  have most : (m : ℚ) ≤ 9007199254740992 := by exact_mod_cast canonical.below.le
  have back : (c : ℚ) * 10 ^ ex / 2 ^ e * 2 ^ e = c * 10 ^ ex := div_mul_cancel₀ _ power.ne'
  have low : (2 : ℚ) ^ (-1075 : ℤ) ≤ c * 10 ^ ex := by
    rw [← back]
    calc (2 : ℚ) ^ (-1075 : ℤ) = 2 ^ (-1 : ℤ) * 2 ^ lowestExponent :=
          by rw [← zpow_add₀ two_ne_zero, show (-1 : Int) + lowestExponent = -1075 by decide]
      _ ≤ 2 ^ (-1 : ℤ) * 2 ^ e := by
          have := zpow_le_zpow_right₀ (show (1 : ℚ) ≤ 2 by norm_num) canonical.lowest
          gcongr
      _ ≤ c * 10 ^ ex / 2 ^ e * 2 ^ e := by
          refine mul_le_mul_of_nonneg_right ?_ power.le
          norm_num
          linarith
  have high : (c : ℚ) * 10 ^ ex ≤ 2 ^ (1025 : ℤ) := by
    rw [← back]
    calc (c : ℚ) * 10 ^ ex / 2 ^ e * 2 ^ e ≤ 2 ^ (54 : ℤ) * 2 ^ e := by
          refine mul_le_mul_of_nonneg_right ?_ power.le
          norm_num
          linarith
      _ ≤ 2 ^ (54 : ℤ) * 2 ^ highestExponent := by
          have := zpow_le_zpow_right₀ (show (1 : ℚ) ≤ 2 by norm_num) canonical.highest
          gcongr
      _ = 2 ^ (1025 : ℤ) := (zpow_add₀ two_ne_zero _ _).symm
  rw [ofDecimalWithin nonzero low high]
  rw [← value] at below above
  exact ofRatioClose canonical den num below above

end ElementLocator.Decimal
