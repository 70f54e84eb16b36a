import ElementLocator.Decimal.Shortest
import ElementLocator.Proofs.Decimal.Reading
/-! The shortest decimal of a double is read as that double. The search for it may come to its last
grid without having found one; seventeen digits are enough there. -/
namespace ElementLocator.Decimal

variable {c m num den : Nat} {e ex : Int} {tie : Tie} {x : Magnitude}

theorem decimalOrderBounds (positive : 0 < num) (whole : 0 < den) :
    (10 : ℚ) ^ (decimalOrder num den - 1) ≤ num / den ∧
      (num : ℚ) / den < 10 ^ decimalOrder num den := by
  obtain ⟨numLow, numHigh⟩ := digitsBounds (n := num) (by omega)
  obtain ⟨denLow, denHigh⟩ := digitsBounds (n := den) (by omega)
  have numDigits : (digits num).length ≠ 0 := by simp [digitsNonempty]
  have denDigits : (digits den).length ≠ 0 := by simp [digitsNonempty]
  have order : (((digits num).length - 1 : Nat) : Int) - ((digits den).length - 1 : Nat) =
      (digits num).length - (digits den).length := by omega
  have bounds := quotientOrder (b := 10) (k := decimalOrder num den - 1) (by decide) numLow
    (by rwa [Nat.sub_add_cancel (by omega)]) denLow (by rwa [Nat.sub_add_cancel (by omega)])
    (by
      rw [order, decimalOrder]
      simp only
      split <;> omega)
  rw [Int.sub_add_cancel] at bounds
  exact bounds

theorem neighbourClosest (tie : Tie) (num den : Nat) (ex : Int) :
    (neighbours tie num den ex).1.exponent = ex ∧
      Closest (neighbours tie num den ex).1.coefficient (dividedBy 10 ex num den).1
        (dividedBy 10 ex num den).2 := by
  unfold neighbours Closest
  simp only
  split
  · rename_i low
    refine ⟨rfl, Or.inl ⟨rfl, ?_⟩⟩
    simp only [Bool.or_eq_true, Bool.and_eq_true, decide_eq_true_eq] at low
    omega
  · rename_i high
    refine ⟨rfl, Or.inr ⟨rfl, ?_⟩⟩
    simp only [Bool.or_eq_true, Bool.and_eq_true, decide_eq_true_eq, not_or] at high
    omega

theorem ratioOfFinite (m : Nat) (e : Int) :
    ((Magnitude.finite m e).ratio.1 : ℚ) / (Magnitude.finite m e).ratio.2 = m * 2 ^ e := by
  rw [Magnitude.ratio, dividedByValue (by decide)]
  simp [zpow_neg]

theorem ratioPositive (positive : 0 < m) (e : Int) :
    0 < (Magnitude.finite m e).ratio.1 ∧ 0 < (Magnitude.finite m e).ratio.2 :=
  ⟨dividedByNum (by decide) positive (-e) 1, dividedByDen (by decide) (by decide) (-e) m⟩

theorem gridClose (fine : (10 : ℚ) ^ ex * 10 ^ 16 ≤ m * 2 ^ e)
    (low : 2 * ((m : ℚ) * 2 ^ e / 10 ^ ex) ≤ 2 * c + 1)
    (high : 2 * (c : ℚ) ≤ 2 * (m * 2 ^ e / 10 ^ ex) + 1) :
    ((m : ℚ) - c * 10 ^ ex / 2 ^ e) * (2 * 10 ^ 16) ≤ m ∧
      ((c : ℚ) * 10 ^ ex / 2 ^ e - m) * (2 * 10 ^ 16) ≤ m := by
  have two : (0 : ℚ) < 2 ^ e := by positivity
  have step : (0 : ℚ) < 10 ^ ex / 2 ^ e := by positivity
  have least : (10 : ℚ) ^ ex / 2 ^ e * 10 ^ 16 ≤ m := by
    rw [div_mul_eq_mul_div, div_le_iff₀ two]
    exact fine
  have back : (m : ℚ) * 2 ^ e / 10 ^ ex * (10 ^ ex / 2 ^ e) = m := by field_simp
  have scaledLow := mul_le_mul_of_nonneg_right low step.le
  have scaledHigh := mul_le_mul_of_nonneg_right high step.le
  rw [mul_assoc, back] at scaledLow
  rw [add_mul, mul_assoc (2 : ℚ) (m * 2 ^ e / 10 ^ ex), back] at scaledHigh
  rw [mul_div_assoc]
  constructor <;> linarith

theorem seventeenDigits (tie : Tie) (canonical : Canonical m e) (positive : 0 < m)
    (ratio : (Magnitude.finite m e).ratio = (num, den)) :
    (neighbours tie num den (decimalOrder num den - 1 - 16)).1.reads (.finite m e) = true := by
  have value := ratioOfFinite m e
  obtain ⟨numPos, denPos⟩ := ratioPositive positive e
  rw [ratio] at value numPos denPos
  simp only at value numPos denPos
  obtain ⟨order, _⟩ := decimalOrderBounds numPos denPos
  generalize place : decimalOrder num den - 1 - 16 = ex
  obtain ⟨exponent, closest⟩ := neighbourClosest tie num den ex
  obtain ⟨low, high⟩ := closestError (dividedByDen (b := 10) (by decide) denPos ex num) closest
  have scaled := dividedByValue (b := 10) (by decide) ex num den
  norm_num at scaled
  rw [scaled, value] at low high
  have fine : (10 : ℚ) ^ ex * 10 ^ 16 ≤ m * 2 ^ e := by
    rw [value] at order
    rwa [← zpow_ofNat, ← zpow_add₀ (by norm_num), ← place, Int.sub_add_cancel]
  generalize (neighbours tie num den ex).1 = near at *
  have nonzero : near.coefficient ≠ 0 := by
    have ten : (0 : ℚ) < 10 ^ ex := by positivity
    have steps : (10 : ℚ) ^ 16 ≤ m * 2 ^ e / 10 ^ ex := by
      rwa [le_div_iff₀ ten, mul_comm]
    have : (0 : ℚ) < near.coefficient := by linarith
    exact_mod_cast this.ne'
  obtain ⟨below, above⟩ := gridClose fine low high
  refine decide_eq_true (ofDecimalClose canonical positive nonzero ?_ ?_)
  · rwa [exponent]
  · rwa [exponent]

theorem searchReads (finer : Nat)
    (last : (neighbours tie num den (ex - finer)).1.reads x = true) :
    (search tie x num den ex finer).reads x = true := by
  induction finer generalizing ex with
  | zero => simpa [search] using last
  | succ finer ih =>
    rw [search]
    simp only
    split
    · assumption
    · split
      · assumption
      · refine ih ?_
        rwa [Nat.cast_succ, add_comm, ← Int.sub_sub] at last

theorem strippedReads (c : Nat) (ex : Int) :
    Magnitude.ofDecimal (stripped c ex).coefficient (stripped c ex).exponent =
      Magnitude.ofDecimal c ex := by
  induction c, ex using stripped.induct with
  | case1 c ex more ih =>
    have nonzero : c / 10 ≠ 0 := by omega
    rw [stripped, dif_pos more, ih, ← ofDecimalTen nonzero, Nat.mul_div_cancel' (by omega)]
  | case2 c ex done => rw [stripped, dif_neg done]

theorem shortestReads (tie : Tie) (canonical : Canonical m e) :
    (shortest tie (.finite m e)).reads (.finite m e) = true := by
  rcases Nat.eq_zero_or_pos m with rfl | positive
  · have least : e = lowestExponent := canonical.normal.resolve_left (by decide)
    subst least
    rfl
  · obtain ⟨numPositive, _⟩ := ratioPositive positive e
    generalize ratio : (Magnitude.finite m e).ratio = pair at numPositive
    obtain ⟨num, den⟩ := pair
    have found := searchReads 16 (seventeenDigits tie canonical positive ratio)
    simp only [Form.reads, decide_eq_true_eq] at found ⊢
    simp only [shortest, ratio, if_neg (show num ≠ 0 from Nat.ne_of_gt numPositive), strippedReads,
      found]

end ElementLocator.Decimal
