import ElementLocator.Proofs.Attribute.Takes
import ElementLocator.Proofs.Outcome
import ElementLocator.XPath.Entry
/-! What a predicate asks for is always a plain value of its attribute's kind. -/
namespace ElementLocator.XPath
open ElementLocator.Decimal (Binary64)

variable {p left right e : Expr} {a : Attribute} {v : Value} {name s : String} {args : List Expr}

theorem positionPlaces {x : Binary64} {n : UInt32} (h : positionBefore x = .ok n) :
    (Value.int n).hasPlace = true := by
  unfold positionBefore at h
  split at h
  · split at h
    · rename_i m _ _ inRange
      cases h
      have back : (UInt32.ofNat (m - 1)).toNat = m - 1 :=
        UInt32.toNat_ofNat_of_lt' (by omega)
      exact decide_eq_true (by omega)
    · cases h
  · cases h

theorem literalPlain (tested : a.xpathName = some name) (h : a.valueOfLiteral s = .ok v) :
    Plain (a, v) ∧ v.hasPlace = true := by
  unfold Attribute.valueOfLiteral at h
  rcases Attribute.testedKind tested with kind | kind
  · rw [kind] at h
    cases h
    exact ⟨plainStr.mpr kind, rfl⟩
  · rw [kind] at h
    simp only at h
    split at h
    · cases h
      exact ⟨plainBool.mpr kind, rfl⟩
    · split at h
      · cases h
        exact ⟨plainBool.mpr kind, rfl⟩
      · cases h

theorem comparisonPlain (h : ofComparison left right = .ok (a, v)) :
    Plain (a, v) ∧ v.hasPlace = true := by
  unfold ofComparison at h
  split at h
  · obtain ⟨n, placed, h⟩ := bindOk.mp h
    cases h
    exact ⟨⟨rfl, rfl⟩, positionPlaces placed⟩
  · split at h
    · cases h
    · split at h
      · cases h
      · rename_i found
        obtain ⟨w, read, h⟩ := bindOk.mp h
        cases h
        exact literalPlain (Attribute.foundTraits found).1 read

theorem functionNoEquals {mode : MatchMode} (h : MatchMode.ofFunction? name = some mode) :
    mode ≠ .equals := by
  rintro rfl
  unfold MatchMode.ofFunction? at h
  split at h
  · cases h
  · split at h
    · cases h
    · split at h <;> cases h

theorem callPlain (h : ofCall name args = .ok (a, v)) : Plain (a, v) ∧ v.hasPlace = true := by
  unfold ofCall at h
  split at h
  · cases h
  · rename_i mode isFunction
    split at h
    · split at h
      · split at h
        · cases h
        · rename_i found
          cases h
          obtain ⟨tested, modeIs⟩ := Attribute.foundTraits found
          rcases Attribute.testedKind tested with kind | kind
          · exact ⟨plainStr.mpr kind, rfl⟩
          · rw [Attribute.booleanEquals kind] at modeIs
            exact absurd modeIs.symm (functionNoEquals isFunction)
      · cases h
    · cases h

theorem presencePlain (h : ofPresence e = .ok (a, v)) : Plain (a, v) ∧ v.hasPlace = true := by
  unfold ofPresence at h
  split at h
  · cases h
  · split at h
    · split at h
      · rename_i kind
        cases h
        exact ⟨plainBool.mpr kind, rfl⟩
      · cases h
    · cases h

theorem entryPlain (h : entryOf p = .ok (a, v)) : Plain (a, v) ∧ v.hasPlace = true := by
  unfold entryOf at h
  split at h
  · obtain ⟨n, placed, h⟩ := bindOk.mp h
    cases h
    exact ⟨⟨rfl, rfl⟩, positionPlaces placed⟩
  · exact comparisonPlain h
  · split at h <;> cases h
  · exact callPlain h
  · exact presencePlain h
  · cases h

end ElementLocator.XPath
