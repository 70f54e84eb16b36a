import ElementLocator.Conversion
import ElementLocator.Proofs.Dict.Json
import ElementLocator.Proofs.Dict.RoundTrip
import ElementLocator.Proofs.Dict.Selector
import ElementLocator.Proofs.Selector.TwoStage
/-! A path that converts means the same in all three formats. -/
namespace ElementLocator.Dict

variable {es : List (Attribute × Value)} {most : Nat}

theorem namesOfEntries (es : List (Attribute × Value)) :
    (callsOf es).map Call.name = es.map fun e => e.1.method := by
  induction es with
  | nil => rw [callsOf]; rfl
  | cons e rest ih =>
    obtain ⟨a, v⟩ := e
    rw [callsOf, List.map_cons, ih]
    rfl

theorem distinctMethods (distinct : Distinct es) : Selector.NoRepeats (callsOf es) := by
  unfold Selector.NoRepeats
  rw [namesOfEntries]
  rw [Distinct] at distinct
  rw [List.Nodup, List.pairwise_map] at distinct ⊢
  exact distinct.imp fun other same => other (Selector.methodInjective same)

theorem selectorNoRepeats (d : Having Distinct most) :
    d.dict.asSelector.Everywhere Selector.NoRepeats :=
  (selectorEverywhere fun _ level => distinctMethods level).1 d.dict d.levels

theorem selectorKnown :
    (∀ d : Dict, ∀ name ∈ d.asSelector.names, (Attribute.ofMethod? name).isSome = true) ∧
    ∀ es : List (Attribute × Value), ∀ name ∈ Selector.namesOfCalls (callsOf es),
      (Attribute.ofMethod? name).isSome = true := by
  refine levels ?level ?nil ?plain ?nested
  case level =>
    intro es ih
    rw [asSelector, Selector.names]
    exact ih
  case nil => simp [callsOf, Selector.namesOfCalls]
  case plain =>
    intro a v rest flat ih name named
    have noNames : Selector.namesOfArgs [v.asArg] = [] := by
      cases v with
      | nested d => cases flat
      | _ => simp [Value.asArg, Selector.namesOfArgs]
    rw [callsOf, Selector.namesOfCalls, noNames, List.nil_append] at named
    rcases List.mem_cons.mp named with rfl | later
    · rw [Attribute.ofMethodOfMethod]
      rfl
    · exact ih name later
  case nested =>
    intro a d rest inDict ih name named
    rw [callsOf, Value.asArg, Selector.namesOfCalls, Selector.namesOfArgs, Selector.namesOfArgs,
      List.append_nil] at named
    rcases List.mem_cons.mp named with rfl | inside
    · rw [Attribute.ofMethodOfMethod]
      rfl
    · rcases List.mem_append.mp inside with here | later
      · exact inDict name here
      · exact ih name later

end ElementLocator.Dict

namespace ElementLocator.Conversion
open ElementLocator.XPath

variable {settings : Settings} {source : String} {v : Json.Value} {d : Dict}

def Means (settings : Settings) (source : String) (d : Dict) : Prop := (do
  let e ← Expr.ofSource source
  e.dict settings) = .ok d

theorem meansLayered (h : Means settings source d) :
    Dict.Layered d ∧ 1 + d.depth ≤ settings.maxDepth + 1 := by
  obtain ⟨e, _, h⟩ := bindOk.mp h
  obtain ⟨steps, _, h⟩ := bindOk.mp h
  exact Dict.pathLayered h

def orderlyMeaning (h : Means settings source d) : Dict.Having Dict.Orderly settings.maxDepth :=
  .ofFirstLevel (Dict.orderlyOfLayered (meansLayered h).1) (meansLayered h).2

theorem dictIff :
    xpathToDict settings source = .ok v ↔ ∃ d, Means settings source d ∧ v = d.json := by
  unfold xpathToDict Means
  constructor
  · intro h
    obtain ⟨e, read, h⟩ := bindOk.mp h
    obtain ⟨d, means, h⟩ := bindOk.mp h
    cases h
    exact ⟨d, bindOk.mpr ⟨e, read, means⟩, rfl⟩
  · rintro ⟨d, h, rfl⟩
    obtain ⟨e, read, means⟩ := bindOk.mp h
    rw [read, okBind, means, okBind]

theorem selectorOfMeaning (h : Means settings source d) :
    xpathToSelector settings source = .ok d.asSelector.text := by
  have written : d.selector settings = .ok d.asSelector :=
    Dict.selectorOfTyped (orderlyMeaning h).sound.typed
  obtain ⟨e, read, means⟩ := bindOk.mp h
  rw [xpathToSelector, read, okBind, means, okBind, written, okBind]

theorem selectorRead (limit : d.depth ≤ 257) :
    Selector.ofSource d.asSelector.text = .ok d.asSelector := by
  rw [Selector.ofSource, Selector.parsedText (Dict.selectorWellFormed limit)]

theorem formatsAgree (limit : settings.maxDepth ≤ 257)
    (converts : xpathToDict settings source = .ok v) :
    ∃ u x, xpathToSelector settings source = .ok u ∧ (selectorToDict settings u).outcome = .ok v ∧
      (selectorToXPath settings u).outcome = .ok x ∧ dictToXPath settings v = .ok x ∧
      xpathToDict settings x = .ok v := by
  obtain ⟨d, means, rfl⟩ := dictIff.mp converts
  let orderly := orderlyMeaning means
  have parsed : Selector.ofSource d.asSelector.text = .ok d.asSelector :=
    selectorRead (Nat.le_trans orderly.room limit)
  have content : (d.asSelector.dict settings).outcome = .ok d := Dict.selectorMeaning orderly.sound
  have rendered : d.xpath settings = .ok (String.ofList (sourceOf d.fragments)) :=
    Dict.xpathOrderly orderly
  have same : (d.asSelector.xpath settings "//*").outcome = d.xpath settings := by
    have stages : Selector.Same settings 1 d.asSelector :=
      Selector.twoStages.1 d.asSelector (Dict.selectorNoRepeats orderly.sound.distinct)
        (Selector.resolvesAll (Or.inl (Dict.selectorKnown.1 d))) 1
    rw [Selector.xpathOfSame stages, content, okBind]
  have json : Dict.ofJson settings d.json = .ok d := Dict.jsonReadBack orderly.sound
  refine ⟨_, String.ofList (sourceOf d.fragments), selectorOfMeaning means, ?_, ?_, ?_, ?_⟩
  · rw [selectorToDict, outcomeBind, outcomeExcept, parsed, okBind, outcomeBind, content, okBind,
      outcomePure]
  · rw [selectorToXPath, outcomeBind, outcomeExcept, parsed, okBind, same, rendered]
  · rw [dictToXPath, json, okBind, rendered]
  · exact dictIff.mpr ⟨d, Dict.sourceMeaning orderly (Dict.xpathSource rendered).2, rfl⟩

theorem siblingOfParentAgrees :
    let source := "//*[@text=\"a\"]/..//*/following-sibling::*[@checked=\"true\"]"
    let v : Json.Value := .obj [("text", .str "a"),
      ("fromParent", .obj [("sibling", .obj [("checked", .bool true)])])]
    Settings.standard.maxDepth ≤ 257 ∧ xpathToDict .standard source = .ok v ∧
      ∃ u x, xpathToSelector .standard source = .ok u ∧
        (selectorToDict .standard u).outcome = .ok v ∧
        (selectorToXPath .standard u).outcome = .ok x ∧ dictToXPath .standard v = .ok x ∧
        xpathToDict .standard x = .ok v := by
  intro source v
  let d : Dict := .mk [(.text, .str "a"),
    (.fromParent, .nested (.mk [(.sibling, .nested (.mk [(.checked, .bool true)]))]))]
  have limit : Settings.standard.maxDepth ≤ 257 := by decide
  let orderly : Dict.Having Dict.Orderly Settings.standard.maxDepth :=
    ⟨d, ⟨by decide, ⟨by decide, ⟨by decide, trivial⟩, trivial⟩, trivial⟩, by decide⟩
  have written : String.ofList (sourceOf d.fragments) = source := by decide
  have fits := (Dict.xpathSource (Dict.xpathOrderly orderly)).2
  have converts : xpathToDict .standard source = .ok v := by
    rw [← written]
    exact dictIff.mpr ⟨d, Dict.sourceMeaning orderly fits, rfl⟩
  exact ⟨limit, converts, formatsAgree limit converts⟩

end ElementLocator.Conversion
