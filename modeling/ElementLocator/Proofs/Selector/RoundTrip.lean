import ElementLocator.Proofs.Selector.Parsing
/-! Which selectors are read back from their text: the well formed ones, and those are all that any
source is read as. -/
namespace ElementLocator.Selector
open ElementLocator.Text

theorem nameKindIff {w : List Char} : wordKind w = .name ↔ w ≠ ['n', 'e', 'w'] ∧
    w ≠ ['U', 'i', 'S', 'e', 'l', 'e', 'c', 't', 'o', 'r'] ∧
    sameLetters w ['t', 'r', 'u', 'e'] = false ∧
    sameLetters w ['f', 'a', 'l', 's', 'e'] = false := by
  constructor
  · intro isName
    have word := wordOf w
    rw [isName] at word
    cases word with
    | name noNew noUiSelector noYes noNo =>
      exact ⟨noNew, noUiSelector, eq_false_of_ne_true noYes, eq_false_of_ne_true noNo⟩
  · rintro ⟨noNew, noUiSelector, noYes, noNo⟩
    simp [wordKind, noNew, noUiSelector, noYes, noNo]

theorem identifierIff {s : String} : IsIdentifier s ↔
    (∃ c cs, s.toList = c :: cs ∧ isNameStart c = true ∧ ∀ x ∈ cs, isNamePart x = true) ∧
      s ≠ "new" ∧ s ≠ "UiSelector" ∧ sameLetters s.toList ['t', 'r', 'u', 'e'] = false ∧
      sameLetters s.toList ['f', 'a', 'l', 's', 'e'] = false := by
  have kind : wordKind s.toList = .name ↔ s ≠ "new" ∧ s ≠ "UiSelector" ∧
      sameLetters s.toList ['t', 'r', 'u', 'e'] = false ∧
      sameLetters s.toList ['f', 'a', 'l', 's', 'e'] = false := by
    have spelled (word : String) : s.toList ≠ word.toList ↔ s ≠ word := not_congr String.toList_inj
    rw [nameKindIff, ← spelled, ← spelled]
    rfl
  rw [← kind]
  constructor
  · rintro ⟨c, cs, same, first, parts, isName⟩
    exact ⟨⟨c, cs, same, first, parts⟩, by rwa [same]⟩
  · rintro ⟨⟨c, cs, same, first, parts⟩, isName⟩
    exact ⟨c, cs, same, first, parts, by rwa [same] at isName⟩

variable {s : Selector} {source : String}

theorem parsedWellFormed (parsed : parse source = .ok s) : WellFormed s := by
  obtain ⟨ts, _, _, _, derived, fit, depth⟩ := parsedDerives parsed
  cases derived with
  | @mk head us tail calls start derived stop =>
    have written : Written calls ∧ EverywhereCalls Written calls :=
      writtenOfCalls derived fun t member => fit t (by simp [member])
    exact ⟨written, depth⟩

theorem textReadBackIff (s : Selector) :
    (parse s.text = .ok s ↔ WellFormed s) ∧
      ∀ source, parse source = .ok s → WellFormed s ∧ parse s.text = .ok s := by
  refine ⟨⟨parsedWellFormed, parsedText⟩, ?_⟩
  intro source parsed
  have wellFormed := parsedWellFormed parsed
  exact ⟨wellFormed, parsedText wellFormed⟩

theorem abbreviatedReadBack :
    let source := " '.text(A).sibling( new UiSelector().checked(TRUE).index(007) ) ' "
    let s : Selector := .mk [
      .mk "text" [.ident "A"],
      .mk "sibling" [.nested (.mk [.mk "checked" [.bool true], .mk "index" [.int 7]])]]
    let truth : Selector := .mk [.mk "text" [.ident "True"]]
    parse source = .ok s ∧
      s.text = "new UiSelector().text(A).sibling(new UiSelector().checked(true).index(7));" ∧
      WellFormed s ∧ parse s.text = .ok s ∧ parse truth.text ≠ .ok truth := by
  intro source s truth
  have parsed : parse source = .ok s := by
    simp only [source, s]
    with_unfolding_all rfl
  have written :
      s.text = "new UiSelector().text(A).sibling(new UiSelector().checked(true).index(7));" := by
    decide +kernel
  obtain ⟨wellFormed, readBack⟩ := (textReadBackIff s).2 source parsed
  refine ⟨parsed, written, wellFormed, readBack, ?_⟩
  intro same
  have ill := (textReadBackIff truth).1.mp same
  obtain ⟨_, _, args⟩ := ill.written.1 (.mk "text" [.ident "True"]) (by simp)
  have isName : IsIdentifier "True" := args (.ident "True") (by simp [Call.args])
  have keyword : sameLetters "True".toList ['t', 'r', 'u', 'e'] = false :=
    (identifierIff.mp isName).2.2.2.1
  exact absurd keyword (by decide)

end ElementLocator.Selector
