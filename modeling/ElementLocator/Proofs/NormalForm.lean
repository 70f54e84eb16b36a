import ElementLocator.Proofs.Conversion
import ElementLocator.Proofs.Dict.OfJson
import ElementLocator.Proofs.Dict.OfSelector
import ElementLocator.Proofs.Selector.Balance
/-! Dictionaries as the normal form of selectors. A sound dictionary is written as a selector that
is valid and has its content, and every dictionary that a conversion gives is sound. -/
namespace ElementLocator.Conversion
open ElementLocator.Dict (Having Sound)

variable {settings : Settings} {d : Dict} {source u : String} {v : Json.Value}

theorem selectorOfSound (d : Having Sound settings.maxDepth) :
    dictToSelector settings d.dict.json = .ok d.dict.asSelector.text := by
  rw [dictToSelector, Dict.jsonReadBack d, okBind, Dict.selectorOfTyped d.typed, okBind]

theorem dictOfSound (limit : settings.maxDepth ≤ 257) (d : Having Sound settings.maxDepth) :
    (selectorToDict settings d.dict.asSelector.text).outcome = .ok d.dict.json := by
  have parsed : Selector.ofSource d.dict.asSelector.text = .ok d.dict.asSelector :=
    selectorRead (Nat.le_trans d.room limit)
  rw [selectorToDict, outcomeBind, outcomeExcept, parsed, okBind, outcomeBind,
    Dict.selectorMeaning d, okBind, outcomePure]

theorem selectorValid (shallow : d.depth ≤ 257) : Selector.problems d.asSelector.text = [] := by
  rw [Selector.problemsOfText (Dict.selectorWellFormed shallow),
    Selector.noUnknownNames (Dict.selectorKnown.1 d), List.map_nil]

theorem soundOfJson (h : dictToSelector settings v = .ok u) :
    ∃ d : Having Sound settings.maxDepth, u = d.dict.asSelector.text ∧
      (v.KeysDistinct → d.dict.json = v) := by
  obtain ⟨d, read, h⟩ := bindOk.mp h
  have written : d.selector settings = .ok d.asSelector :=
    Dict.selectorOfTyped (Dict.soundRead read).typed
  rw [written, okBind] at h
  exact ⟨Dict.soundRead read, (Except.ok.inj h).symm,
    fun distinct => Dict.jsonWritten ⟨v, distinct⟩ read⟩

theorem soundOfSelector (h : (selectorToDict settings source).outcome = .ok v) :
    ∃ d : Having Sound settings.maxDepth, v = d.dict.json := by
  rw [selectorToDict, outcomeBind, outcomeExcept] at h
  obtain ⟨s, _, h⟩ := bindOk.mp h
  rw [outcomeBind] at h
  obtain ⟨d, content, h⟩ := bindOk.mp h
  exact ⟨Selector.soundContent content, (Except.ok.inj h).symm⟩

/-- A dictionary is what its selector is converted back to, and the selector is valid. The
dictionary of any selector can be written as a selector, and that one has the same dictionary. -/
theorem dictIsNormalForm (limit : settings.maxDepth ≤ 257) :
    (∀ v u, dictToSelector settings v = .ok u →
      Selector.problems u = [] ∧
        (v.KeysDistinct → (selectorToDict settings u).outcome = .ok v)) ∧
    ∀ source v, (selectorToDict settings source).outcome = .ok v →
      ∃ u, dictToSelector settings v = .ok u ∧ Selector.problems u = [] ∧
        (selectorToDict settings u).outcome = .ok v := by
  constructor
  · intro v u written
    obtain ⟨d, rfl, same⟩ := soundOfJson written
    refine ⟨selectorValid (Nat.le_trans d.room limit), ?_⟩
    intro distinct
    rw [← same distinct]
    exact dictOfSound limit d
  · intro source v content
    obtain ⟨d, rfl⟩ := soundOfSelector content
    exact ⟨d.dict.asSelector.text, selectorOfSound d, selectorValid (Nat.le_trans d.room limit),
      dictOfSound limit d⟩

theorem repeatedCallsNormalized :
    let source := ".text(A).sibling(new UiSelector().instance(7)).text(\"B\\\"\")"
    let v : Json.Value := .obj [("text", .str "B\""), ("sibling", .obj [("instance", .int 7)])]
    let u := "new UiSelector().text(\"B\\\"\").sibling(new UiSelector().instance(7));"
    Settings.standard.maxDepth ≤ 257 ∧ (selectorToDict .standard source).outcome = .ok v ∧
      dictToSelector .standard v = .ok u ∧ v.KeysDistinct ∧
      Selector.problems u = [] ∧ (selectorToDict .standard u).outcome = .ok v ∧
      ∃ w, dictToSelector .standard v = .ok w ∧ Selector.problems w = [] ∧
        (selectorToDict .standard w).outcome = .ok v := by
  intro source v u
  let s : Selector := .mk [
    .mk "text" [.ident "A"],
    .mk "sibling" [.nested (.mk [.mk "instance" [.int 7]])],
    .mk "text" [.str "B\""]]
  let d : Dict := .mk [
    (.text, .str "B\""),
    (.sibling, .nested (.mk [(.occurrence, .int 7)]))]
  have limit : Settings.standard.maxDepth ≤ 257 := by decide
  have parsed : Selector.parse source = .ok s := by
    simp only [source, s]
    with_unfolding_all rfl
  have content : (selectorToDict .standard source).outcome = .ok v := by
    rw [selectorToDict, outcomeBind, outcomeExcept, Selector.ofSource, parsed]
    rfl
  have written : dictToSelector .standard v = .ok u := by
    let sound : Having Sound Settings.standard.maxDepth :=
      ⟨d, ⟨⟨by decide, by decide⟩, ⟨⟨by decide, by decide⟩, trivial⟩, trivial⟩, by decide⟩
    have text : d.asSelector.text = u := by decide +kernel
    rw [← text]
    exact selectorOfSound sound
  have distinct : v.KeysDistinct := ⟨by decide, trivial, ⟨by decide, trivial, trivial⟩, trivial⟩
  obtain ⟨valid, back⟩ := (dictIsNormalForm limit).1 v u written
  exact ⟨limit, content, written, distinct, valid, back distinct,
    (dictIsNormalForm limit).2 source v content⟩

end ElementLocator.Conversion
