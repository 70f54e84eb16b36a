import ElementLocator.Converter
import ElementLocator.Proofs.Dict.Renderable
import ElementLocator.Proofs.Dict.Validity
import ElementLocator.Proofs.NormalForm
/-! What a converter makes of the dictionaries that it produced. They can be written in both other
formats, but the check that comes first has two demands that no source has to meet: that the
dictionary is not empty, and that no level has two attributes of one family. -/
namespace ElementLocator.Converter
open ElementLocator.Dict (Having OneOfFamily Sound)

variable {α : Type} {c later : Converter} {l made : Locator} {target : Format}
  {raw : Json.Value}

theorem runOutcome (c : Converter) (op : Operation) (work : Noted α) :
    (c.run op work).outcome = work.outcome ∧ (c.run op work).converter.settings = c.settings := by
  unfold run
  cases work.outcome <;> exact ⟨rfl, rfl⟩

theorem checkedOutcome (c : Converter) (op : Operation) (l : Locator) (work : Noted α) :
    (c.checked op l work).outcome = (do
      c.check l
      work.outcome) := by
  rw [checked, (runOutcome _ _ _).1, outcomeBind, outcomeExcept]

theorem convertSettings (c : Converter) (l : Locator) (target : Format) :
    (c.convert l target).converter.settings = c.settings := by
  cases l <;> cases target <;> exact (runOutcome _ _ _).2

theorem producedSound (source : l.format ≠ .dict)
    (produced : (c.convert l .dict).outcome = .ok made) :
    ∃ d : Having Sound c.settings.maxDepth, made = .dict d.dict.json := by
  cases l with
  | uiSelector text =>
    obtain ⟨v, converted, rfl⟩ := mapOk.mp produced
    rw [selectorToDict, checkedOutcome] at converted
    obtain ⟨_, _, converted⟩ := bindOk.mp converted
    obtain ⟨d, rfl⟩ := Conversion.soundOfSelector converted
    exact ⟨d, rfl⟩
  | xpath text =>
    obtain ⟨v, converted, rfl⟩ := mapOk.mp produced
    rw [xpathToDict, checkedOutcome, outcomeExcept] at converted
    obtain ⟨_, _, converted⟩ := bindOk.mp converted
    obtain ⟨d, means, rfl⟩ := Conversion.dictIff.mp converted
    exact ⟨(Conversion.orderlyMeaning means).sound, rfl⟩
  | dict raw => exact absurd rfl source

theorem dictRefused (validates : c.settings.validateInput = true) (found : Dict.problems raw ≠ [])
    (other : target ≠ .dict) :
    (c.convert (.dict raw) target).outcome = .error (.invalid .dict (Dict.problems raw)) := by
  have refused : c.check (.dict raw) = .error (.invalid .dict (Dict.problems raw)) := by
    rw [check, if_pos validates, Locator.problems, Locator.format]
    unfold accept
    split
    · contradiction
    · rfl
  cases target with
  | xpath => simp [convert, dictToXPath, Answer.map, checkedOutcome, refused, bind, Except.bind,
      Except.map]
  | uiSelector => simp [convert, dictToSelector, Answer.map, checkedOutcome, refused, bind,
      Except.bind, Except.map]
  | dict => exact absurd rfl other

theorem dictWritten (d : Having Sound c.settings.maxDepth)
    (fine : Dict.problems d.dict.json = []) :
    (∃ x, (c.convert (.dict d.dict.json) .xpath).outcome = .ok (.xpath x)) ∧
      ∃ u, (c.convert (.dict d.dict.json) .uiSelector).outcome = .ok (.uiSelector u) := by
  have passes : c.check (.dict d.dict.json) = .ok () := by
    unfold check
    split
    · rw [Locator.problems, fine, accept]
    · rfl
  obtain ⟨x, rendered⟩ := Dict.xpathIff.mpr ⟨d.typed.levels, d.room⟩
  refine ⟨⟨x, mapOk.mpr ⟨x, ?_, rfl⟩⟩, d.dict.asSelector.text, mapOk.mpr ⟨_, ?_, rfl⟩⟩
  · rw [dictToXPath, checkedOutcome, passes, okBind, outcomeExcept, Conversion.dictToXPath,
      Dict.jsonReadBack d, okBind, rendered]
  · rw [dictToSelector, checkedOutcome, passes, okBind, outcomeExcept,
      Conversion.selectorOfSound d]

theorem soundProduced (limit : c.settings.maxDepth ≤ 257) (d : Having Sound c.settings.maxDepth) :
    (c.convert (.uiSelector d.dict.asSelector.text) .dict).outcome = .ok (.dict d.dict.json) := by
  have passes : c.check (.uiSelector d.dict.asSelector.text) = .ok () := by
    unfold check
    split
    · rw [Locator.problems, Conversion.selectorValid (Nat.le_trans d.room limit), accept]
    · rfl
  refine mapOk.mpr ⟨d.dict.json, ?_, rfl⟩
  rw [selectorToDict, checkedOutcome, passes, okBind, Conversion.dictOfSound limit d]

theorem producedAcceptedIff (validates : c.settings.validateInput = true)
    (limit : c.settings.maxDepth ≤ Dict.maxNesting) (source : l.format ≠ .dict)
    (produced : (c.convert l .dict).outcome = .ok made) (same : later.settings = c.settings) :
    ∃ d : Dict, made = .dict d.json ∧ Dict.ofJson c.settings d.json = .ok d ∧
      (d.isEmpty = false ∧ d.Everywhere OneOfFamily →
        (∃ x, (later.convert made .xpath).outcome = .ok (.xpath x)) ∧
          ∃ u, (later.convert made .uiSelector).outcome = .ok (.uiSelector u)) ∧
      (¬ (d.isEmpty = false ∧ d.Everywhere OneOfFamily) →
        Dict.problems d.json ≠ [] ∧
          (later.convert made .xpath).outcome = .error (.invalid .dict (Dict.problems d.json)) ∧
          (later.convert made .uiSelector).outcome =
            .error (.invalid .dict (Dict.problems d.json))) := by
  obtain ⟨d, rfl⟩ := producedSound source produced
  have checks := Dict.problemsOfSound (d.deeper limit)
  refine ⟨d.dict, rfl, Dict.jsonReadBack d, ?_⟩
  rw [← same] at validates
  constructor
  · intro acceptable
    exact dictWritten (d.deeper (Nat.le_of_eq (by rw [same]))) (checks.mpr acceptable)
  · intro unacceptable
    have found : Dict.problems d.dict.json ≠ [] := fun none => unacceptable (checks.mp none)
    exact ⟨found, dictRefused validates found nofun, dictRefused validates found nofun⟩

theorem familiesAtTwoLevelsAccepted :
    let c : Converter := .ofSettings .standard
    let apart := "new UiSelector().text(\"A\").childSelector(new UiSelector().textMatches(\"B\"));"
    let together :=
      "new UiSelector().childSelector(new UiSelector().text(\"A\").textMatches(\"B\"));"
    let fine : Json.Value := .obj [
      ("text", .str "A"), ("childSelector", .obj [("textMatches", .str "B")])]
    let conflicting : Json.Value := .obj [
      ("childSelector", .obj [("text", .str "A"), ("textMatches", .str "B")])]
    let first := c.convert (.uiSelector apart) .dict
    let second := first.converter.convert (.uiSelector together) .dict
    first.outcome = .ok (.dict fine) ∧ second.outcome = .ok (.dict conflicting) ∧
      (∃ x, (second.converter.convert (.dict fine) .xpath).outcome = .ok (.xpath x)) ∧
      (∃ u, (second.converter.convert (.dict fine) .uiSelector).outcome = .ok (.uiSelector u)) ∧
      Dict.problems conflicting ≠ [] ∧
      (second.converter.convert (.dict conflicting) .xpath).outcome =
        .error (.invalid .dict (Dict.problems conflicting)) ∧
      (second.converter.convert (.dict conflicting) .uiSelector).outcome =
        .error (.invalid .dict (Dict.problems conflicting)) := by
  intro c apart together fine conflicting first second
  let fineDict : Dict := .mk [
    (.text, .str "A"),
    (.childSelector, .nested (.mk [(.textMatches, .str "B")]))]
  let conflictingDict : Dict := .mk [
    (.childSelector, .nested (.mk [(.text, .str "A"), (.textMatches, .str "B")]))]
  have afterFirst : first.converter.settings = c.settings := convertSettings _ _ _
  have afterSecond : second.converter.settings = c.settings :=
    (convertSettings _ _ _).trans afterFirst
  let soundFine : Having Sound c.settings.maxDepth :=
    ⟨fineDict, ⟨⟨by decide, by decide⟩, ⟨⟨by decide, by decide⟩, trivial⟩, trivial⟩, by decide⟩
  let soundConflicting : Having Sound c.settings.maxDepth :=
    ⟨conflictingDict, ⟨⟨by decide, by decide⟩, ⟨⟨by decide, by decide⟩, trivial⟩, trivial⟩,
      by decide⟩
  have makesFine : first.outcome = .ok (.dict fine) := by
    have written : fineDict.asSelector.text = apart := by decide +kernel
    change (c.convert (.uiSelector apart) .dict).outcome = _
    rw [← written]
    exact soundProduced (by decide) soundFine
  have makesConflicting : second.outcome = .ok (.dict conflicting) := by
    have written : conflictingDict.asSelector.text = together := by decide +kernel
    change (first.converter.convert (.uiSelector together) .dict).outcome = _
    rw [← written]
    exact soundProduced (by rw [afterFirst]; decide)
      (soundConflicting.deeper (Nat.le_of_eq (by rw [afterFirst])))
  obtain ⟨d, made, read, accepted, _⟩ :=
    producedAcceptedIff rfl (by decide) (by decide) makesFine afterSecond
  obtain ⟨e, alsoMade, alsoRead, _, refused⟩ :=
    producedAcceptedIff (by rw [afterFirst]; rfl) (by rw [afterFirst]; decide) (by decide)
      makesConflicting (afterSecond.trans afterFirst.symm)
  have sameFine : fineDict = d := by
    rw [← Locator.dict.inj made] at read
    exact Except.ok.inj ((Dict.jsonReadBack soundFine).symm.trans read)
  have sameConflicting : conflictingDict = e := by
    rw [← Locator.dict.inj alsoMade, afterFirst] at alsoRead
    exact Except.ok.inj ((Dict.jsonReadBack soundConflicting).symm.trans alsoRead)
  subst sameFine sameConflicting
  have apartFamilies : fineDict.isEmpty = false ∧ fineDict.Everywhere OneOfFamily := by
    refine ⟨rfl, ?_, ⟨?_, trivial⟩, trivial⟩ <;> intro family <;> cases family <;> decide
  have togetherFamilies :
      ¬ (conflictingDict.isEmpty = false ∧ conflictingDict.Everywhere OneOfFamily) := by
    rintro ⟨_, _, ⟨inner, _⟩, _⟩
    exact absurd (inner .text) (by decide)
  obtain ⟨asXPath, asSelector⟩ := accepted apartFamilies
  exact ⟨makesFine, makesConflicting, asXPath, asSelector, refused togetherFamilies⟩

theorem producedRefused :
    let c : Converter := .ofSettings .standard
    let conflicting : Json.Value := .obj [("text", .str "a"), ("textContains", .str "b")]
    c.settings.validateInput = true ∧
      (c.convert (.uiSelector "new UiSelector();") .dict).outcome = .ok (.dict (.obj [])) ∧
      (c.convert (.dict (.obj [])) .xpath).outcome = .error (.invalid .dict [.emptyDict]) ∧
      (c.convert (.dict (.obj [])) .uiSelector).outcome = .error (.invalid .dict [.emptyDict]) ∧
      (c.convert (.uiSelector "new UiSelector().text(\"a\").textContains(\"b\");") .dict).outcome =
        .ok (.dict conflicting) ∧
      (c.convert (.dict conflicting) .xpath).outcome =
        .error (.invalid .dict [.conflict .text ["text", "textContains"]]) ∧
      (c.convert (.dict conflicting) .uiSelector).outcome =
        .error (.invalid .dict [.conflict .text ["text", "textContains"]]) := by
  intro c conflicting
  let empty : Dict := .mk []
  let both : Dict := .mk [(.text, .str "a"), (.textContains, .str "b")]
  have makesEmpty : (c.convert (.uiSelector "new UiSelector();") .dict).outcome =
      .ok (.dict (.obj [])) := by
    have written : empty.asSelector.text = "new UiSelector();" := by decide +kernel
    rw [← written]
    exact soundProduced (by decide) ⟨empty, ⟨⟨by decide, by decide⟩, trivial⟩, by decide⟩
  have makesBoth :
      (c.convert (.uiSelector "new UiSelector().text(\"a\").textContains(\"b\");") .dict).outcome =
        .ok (.dict conflicting) := by
    have written :
        both.asSelector.text = "new UiSelector().text(\"a\").textContains(\"b\");" := by
      decide +kernel
    rw [← written]
    exact soundProduced (by decide) ⟨both, ⟨⟨by decide, by decide⟩, trivial⟩, by decide⟩
  have found : Dict.problems conflicting = [.conflict .text ["text", "textContains"]] := by rfl
  refine ⟨rfl, makesEmpty, dictRefused rfl nofun nofun, dictRefused rfl nofun nofun, makesBoth, ?_⟩
  rw [← found]
  exact ⟨dictRefused rfl (by simp [found]) nofun, dictRefused rfl (by simp [found]) nofun⟩

end ElementLocator.Converter
