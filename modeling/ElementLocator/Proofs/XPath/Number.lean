import ElementLocator.Proofs.Decimal.Shortest
import ElementLocator.Proofs.XPath.Written
/-! Numbers are written without exponents, and a finite one is the value of its written form. -/
namespace ElementLocator.XPath
open ElementLocator.Text
open ElementLocator.Decimal

variable {ds : List Char} {c : Nat} {e : Int} {x : Binary64} {w : List Char}

theorem valueZeros (ds : List Char) (k : Nat) : value (ds ++ zeros k) = value ds * 10 ^ k := by
  induction k with
  | zero => simp [zeros]
  | succ k ih =>
    have last : value (ds ++ zeros (k + 1)) = 10 * value (ds ++ zeros k) + digitValue '0' := by
      simp [value, zeros, List.replicate_succ', ← List.append_assoc]
    have zero : digitValue '0' = 0 := by decide
    rw [last, ih, zero, Nat.pow_succ]
    ring

theorem valueBehindZeros (ds : List Char) (k : Nat) : value (zeros k ++ ds) = value ds := by
  have nothing : value (zeros k) = 0 := by simpa [value] using valueZeros [] k
  unfold value at nothing ⊢
  rw [List.foldl_append, nothing]

theorem zerosDigits (k : Nat) : ∀ x ∈ zeros k, isDigit x = true := by
  intro x member
  rw [(List.mem_replicate.mp member).2]
  rfl

theorem placeSpells (nonzero : c ≠ 0) (e : Int) :
    NumberText (numberLayout.place (digits c) e) ⟨false, Magnitude.ofDecimal c e⟩ := by
  have all : ∀ x ∈ digits c, isDigit x = true := List.all_eq_true.mp (digitsAllDigits c)
  have nonempty : (digits c).length ≠ 0 := by simp [digitsNonempty]
  have mark : numberLayout.wholeMark = [] := rfl
  unfold Layout.place
  simp only [mark, List.append_nil]
  split
  · rename_i sign
    have spelled := NumberText.whole (w := digits c ++ zeros e.toNat) (by simp [digitsNonempty])
      (List.forall_mem_append.mpr ⟨all, zerosDigits _⟩)
    rwa [valueZeros, valueOfDigits, ofDecimalShift nonzero, Int.zero_add, Int.toNat_of_nonneg sign]
      at spelled
  · split
    · rename_i sign inside
      generalize front : ((digits c).length + e).toNat = k
      have spelled := NumberText.fraction (w := (digits c).take k) (v := (digits c).drop k)
        (List.ne_nil_of_length_pos (by rw [List.length_take]; omega))
        (fun x member => all x (List.mem_of_mem_take member))
        (List.ne_nil_of_length_pos (by rw [List.length_drop]; omega))
        (fun x member => all x (List.mem_of_mem_drop member))
      have places : -(((digits c).drop k).length : Int) = e := by
        rw [List.length_drop]
        omega
      rwa [List.take_append_drop, valueOfDigits, places] at spelled
    · rename_i sign outside
      generalize gap : (-((digits c).length + e)).toNat = k
      have spelled := NumberText.fraction (w := ['0']) (v := zeros k ++ digits c) (by simp)
        (by simp [isDigit]) (by simp [digitsNonempty])
        (List.forall_mem_append.mpr ⟨zerosDigits k, all⟩)
      have places : -((zeros k ++ digits c).length : Int) = e := by
        rw [List.length_append, zeros, List.length_replicate]
        omega
      have digitsValue : value (['0'] ++ (zeros k ++ digits c)) = c :=
        (valueBehindZeros (digits c) (k + 1)).trans (valueOfDigits c)
      rwa [digitsValue, places] at spelled

theorem writtenSpells (read : NumberText w x) (finite : x.magnitude ≠ .infinite) :
    NumberText (numberText x).toList x := by
  obtain ⟨c, ex, rfl⟩ : ∃ c ex, x = ⟨false, Magnitude.ofDecimal c ex⟩ := by
    cases read
    · exact ⟨_, _, rfl⟩
    · exact ⟨_, _, rfl⟩
  cases value : Magnitude.ofDecimal c ex with
  | infinite => exact absurd value finite
  | finite m e =>
    have reads := shortestReads .up (ofDecimalCanonical value)
    simp only [Form.reads, decide_eq_true_eq] at reads
    have text : (numberText ⟨false, .finite m e⟩).toList =
        numberLayout.magnitude (.finite m e) := by simp [numberText, Layout.write]
    have tie : numberLayout.tie = .up := rfl
    rw [text, Layout.magnitude, tie]
    generalize shortest .up (.finite m e) = form at reads
    split
    · rename_i zero
      rw [zero] at reads
      rw [← reads]
      exact NumberText.whole (w := ['0']) (by simp) (by simp [isDigit])
    · rename_i nonzero
      rw [← reads]
      exact placeSpells nonzero form.exponent

end ElementLocator.XPath
