import ElementLocator.Proofs.Converter.Accounts
import ElementLocator.Proofs.Decimal.Rounding
/-! The rate of success of a converter. Both counts are rounded before they are divided, which loses
nothing below 2^53: there the rate is the double nearest to the quotient of the counts, and it
tells whether none or all of the conversions succeeded. -/
namespace ElementLocator

namespace Decimal

variable {num den : Nat}

theorem ratioOfNone (e : Int) : (Magnitude.finite 0 e).ratio.1 = 0 := by
  rw [Magnitude.ratio, dividedBy]
  split <;> simp

theorem quotientOfNone (y : Magnitude) : Magnitude.zero.quotient y = .zero := by
  rw [Magnitude.quotient]
  simp only [Magnitude.zero, ratioOfNone, Nat.zero_mul]
  rfl

theorem quotientOfWhole (whole : den ≠ 0) (few : num < 2 * leastNormal)
    (fewer : den < 2 * leastNormal) :
    (Magnitude.ofRatio num 1).quotient (.ofRatio den 1) = .ofRatio num den := by
  by_cases none : num = 0
  · subst none
    exact quotientOfNone _
  · rw [ofRatioWhole none few, ofRatioWhole whole fewer, Magnitude.quotient, ratioOfScaled,
      ratioOfScaled]
    generalize 52 - num.log2 = i
    generalize 52 - den.log2 = j
    have above : num * 2 ^ i * 2 ^ j = 2 ^ i * 2 ^ j * num := by ring
    have below : 2 ^ i * (den * 2 ^ j) = 2 ^ i * 2 ^ j * den := by ring
    simp only [above, below]
    exact ofRatioScaled (by positivity) (by omega) (by omega)

def Magnitude.one : Magnitude := .finite leastNormal (-52)

theorem ofRatioOneIff (few : den < 2 * leastNormal) (part : num ≤ den) (whole : den ≠ 0) :
    Magnitude.ofRatio num den = .one ↔ num = den := by
  constructor
  · intro rounded
    have some : num ≠ 0 := by
      rintro rfl
      cases rounded
    have positive : (0 : ℚ) < den := by exact_mod_cast Nat.pos_of_ne_zero whole
    obtain ⟨_, near⟩ := ofRatioError (by omega) (by omega) rounded
    have quotient : (num : ℚ) / den / 2 ^ (-52 : Int) * den = num * leastNormal := by
      norm_num [leastNormal]
      field_simp
    have missing : ((den : ℚ) - num) * (2 * leastNormal) ≤ den := by
      have scaled := mul_le_mul_of_nonneg_right near positive.le
      linarith
    have missing : (den - num) * (2 * leastNormal) ≤ den := by
      rw [← Nat.cast_sub part] at missing
      exact_mod_cast missing
    rcases Nat.eq_zero_or_pos (den - num) with none | more
    · omega
    · have := Nat.le_mul_of_pos_left (2 * leastNormal) more
      omega
  · rintro rfl
    have same : Magnitude.ofRatio (num * 1) (num * 1) = .ofRatio 1 1 :=
      ofRatioScaled (by omega) (by decide) (by decide)
    rw [Nat.mul_one] at same
    rw [same]
    decide

theorem ofRatioZeroIff (few : den < 2 * leastNormal) (whole : den ≠ 0) :
    Magnitude.ofRatio num den = .zero ↔ num = 0 := by
  constructor
  · intro rounded
    by_contra some
    obtain ⟨small, _⟩ := ofRatioError (by omega) (by omega) rounded
    have positive : (0 : ℚ) < den := by exact_mod_cast Nat.pos_of_ne_zero whole
    have least : (1 : ℚ) ≤ num := by exact_mod_cast Nat.pos_of_ne_zero some
    have most : (den : ℚ) ≤ 2 ^ (53 : Int) := by
      norm_num
      exact_mod_cast few.le
    have tiny : (2 : ℚ) ^ lowestExponent ≤ 2 ^ (-53 : Int) :=
      zpow_le_zpow_right₀ one_le_two (by decide)
    have large : 1 ≤ (num : ℚ) / den / 2 ^ lowestExponent := by
      rw [div_div, le_div_iff₀ (by positivity), one_mul]
      calc (den : ℚ) * 2 ^ lowestExponent ≤ 2 ^ (53 : Int) * 2 ^ (-53 : Int) :=
            mul_le_mul most tiny (by positivity) (by positivity)
        _ = 1 := by norm_num
        _ ≤ num := least
    rw [Nat.cast_zero] at small
    linarith
  · rintro rfl
    rfl

end Decimal

namespace Tally
open ElementLocator.Decimal

variable {t : Tally}

theorem rateNearest (some : t.total ≠ 0) (few : t.total.toNat < 2 * leastNormal)
    (part : t.succeeded ≤ t.total) : t.successRate = ⟨false, .ofRatio t.succeeded t.total⟩ := by
  have fewer : t.succeeded.toNat < 2 * leastNormal :=
    Nat.lt_of_le_of_lt (UInt64.le_iff_toNat_le.mp part) few
  have whole : t.total.toNat ≠ 0 := fun none => some (UInt64.toNat_inj.mp none)
  rw [successRate, if_neg some, quotientOfWhole whole fewer few]

theorem rateExtremes (some : t.total ≠ 0) (few : t.total.toNat < 2 * leastNormal)
    (part : t.succeeded ≤ t.total) :
    (t.successRate = ⟨false, .zero⟩ ↔ t.succeeded = 0) ∧
      (t.successRate = ⟨false, .one⟩ ↔ t.succeeded = t.total) := by
  have whole : t.total.toNat ≠ 0 := fun none => some (UInt64.toNat_inj.mp none)
  rw [rateNearest some few part, Binary64.mk.injEq, Binary64.mk.injEq, ofRatioZeroIff few whole,
    ofRatioOneIff few (UInt64.le_iff_toNat_le.mp part) whole, ← UInt64.toNat_inj,
    ← UInt64.toNat_inj]
  exact ⟨and_iff_right rfl, and_iff_right rfl⟩

/- Beyond 2^53 a rate of one does not tell that nothing failed. -/
example : (⟨18014398509481984, 18014398509481983, 1⟩ : Tally).successRate = ⟨false, .one⟩ := by
  decide +kernel

end Tally

namespace Session
open ElementLocator.Decimal

/-- After any requests that ask for fewer than 2^53 conversions, the rate is the double nearest to
the part of the conversions since the last reset that succeeded. -/
theorem rateOfReplies (settings : Settings) (requests : List Request)
    (few : (requests.map Request.conversions).sum < 2 * leastNormal) :
    let s := (start settings).run requests
    let rate := s.converter.tally.successRate
    (s.asked = 0 → rate = ⟨false, .zero⟩) ∧
      (s.asked ≠ 0 → rate = ⟨false, .ofRatio s.successes s.asked⟩ ∧
        (rate = ⟨false, .zero⟩ ↔ s.successes = 0) ∧ (rate = ⟨false, .one⟩ ↔ s.failures = 0)) := by
  intro s rate
  have accounts : s.Accounts := runAccounts (startAccounts settings) requests
  have bound : s.asked ≤ 0 + (requests.map Request.conversions).sum :=
    askedRun (start settings) requests
  have size : 2 * leastNormal < UInt64.size := by decide
  obtain ⟨total, succeeded, failed⟩ := accountsShown accounts (by omega)
  have whole := accounts.asked
  have part : s.converter.tally.succeeded ≤ s.converter.tally.total := by
    rw [UInt64.le_iff_toNat_le, total, succeeded]
    omega
  constructor
  · intro none
    have empty : s.converter.tally.total = 0 := UInt64.toNat_inj.mp (total.trans none)
    simp only [rate, Tally.successRate, if_pos empty]
  · intro some
    have counted : s.converter.tally.total ≠ 0 := fun none => some (by rw [← total, none]; rfl)
    have small : s.converter.tally.total.toNat < 2 * leastNormal := by omega
    have nearest := Tally.rateNearest counted small part
    obtain ⟨zero, one⟩ := Tally.rateExtremes counted small part
    rw [total, succeeded] at nearest
    refine ⟨nearest, zero.trans ?_, one.trans ?_⟩
    · rw [← UInt64.toNat_inj, succeeded]
      rfl
    · rw [← UInt64.toNat_inj, succeeded, total]
      omega

end Session

end ElementLocator
