import ElementLocator.Proofs.Dict.OfPath
import ElementLocator.Proofs.Dict.Rendering
import ElementLocator.Proofs.XPath.Listing
/-! Orderly dictionaries are read back from the XPath that they are rendered as. -/
namespace ElementLocator.Dict
open ElementLocator.XPath

variable {settings : Settings} {depth : Nat} {es before : List (Attribute × Value)}
  {a : Attribute} {v : Value} {d : Dict} {fs : List Fragment}

def askedOf (es : List (Attribute × Value)) : List Expr := es.map fun e => asked e.1 e.2

theorem entriesCollected (plain : ∀ e ∈ es, Plain e)
    (distinct : ((before ++ es).map Prod.fst).Nodup)
    (places : ∀ e ∈ es, e.2.hasPlace = true) :
    entriesOf (.mk before) (askedOf es) = .ok (.mk (before ++ es)) := by
  induction es generalizing before with
  | nil => rw [askedOf, List.map_nil, entriesOf, List.append_nil]
  | cons e rest ih =>
    obtain ⟨a, v⟩ := e
    have entry : entryOf (asked a v) = .ok (a, v) :=
      entryOfAsked (plain (a, v) (by simp)) (places (a, v) (by simp))
    have next := insertNext distinct
    rw [List.append_cons before (a, v) rest] at distinct ⊢
    have more := ih (fun x hx => plain x (by simp [hx])) distinct
      fun x hx => places x (by simp [hx])
    rw [askedOf, List.map_cons, entriesOf, entry, okBind]
    simp only [next]
    exact more

theorem elementCollected {axis : Option Axis} (flat : Flat es) :
    ofElement ⟨axis, .any, askedOf es⟩ = .ok (.mk es) := by
  have collected : entriesOf (.mk []) (askedOf es) = .ok (.mk ([] ++ es)) :=
    entriesCollected flat.plain flat.distinct flat.places
  simpa [ofElement, okBind, Dict.empty] using collected

theorem takenPlain (plain : ∀ e ∈ es, Plain e) (rest : List (Attribute × Value)) :
    taken (fragmentsOf (es ++ rest)) = (askedOf es ++ (taken (fragmentsOf rest)).1,
      (taken (fragmentsOf rest)).2.1, (taken (fragmentsOf rest)).2.2) := by
  induction es with
  | nil => rfl
  | cons e es ih =>
    obtain ⟨a, v⟩ := e
    have flat := (plainIff.mp (plain (a, v) (by simp))).2
    rw [List.cons_append, fragmentsPlain flat, taken, ih fun x hx => plain x (by simp [hx])]
    rfl

theorem takenFlat (flat : Flat es) : taken (Dict.mk es).fragments = (askedOf es, [], []) := by
  have whole := takenPlain flat.plain []
  rw [List.append_nil] at whole
  rw [fragments, whole]
  simp [fragmentsOf, taken]

theorem bareFlat (flat : Flat es) (h : (Dict.mk es).isBare = true) : es = [] := by
  rcases bareShape h with same | ⟨inner, same⟩
  · exact Dict.mk.inj same
  · rw [Dict.mk.inj same] at flat
    exact (flatNested flat (List.mem_singleton.mpr rfl)).elim

theorem bareNesting (h : (Dict.mk (es ++ [(a, .nested d)])).isBare = true) :
    es = [] ∧ a = .fromParent := by
  rcases bareShape h with same | ⟨inner, same⟩
  · have shape := Dict.mk.inj same
    simp at shape
  · have shape := Dict.mk.inj same
    cases es with
    | nil =>
      simp only [List.nil_append, List.cons.injEq, Prod.mk.injEq] at shape
      exact ⟨rfl, shape.1.1⟩
    | cons e rest => simp at shape

structure Readable (settings : Settings) (d : Dict) : Prop where
  whole : (taken d.fragments).2.2 = []
  element : ∀ inRun depth axis, depth + d.depth ≤ settings.maxDepth + 1 →
    dictOf settings inRun depth
      (.element ⟨axis, .any, (taken d.fragments).1⟩ :: stepsOf d.fragments) = .ok d
  bare : d.isBare = true → (taken d.fragments).1 = [] ∧
    ∀ depth, depth + d.depth ≤ settings.maxDepth + 1 →
      dictOf settings true depth (stepsOf d.fragments) = .ok d

theorem checked (room : depth + d.depth ≤ settings.maxDepth + 1) :
    ∃ u, settings.checkDepth depth = .ok u := by
  apply checkDepthOk.mpr
  cases d
  rw [Dict.depth] at room
  omega

theorem readableFlat (flat : Flat es) : Readable settings (.mk es) where
  whole := by rw [takenFlat flat]
  element inRun depth axis room := by
    obtain ⟨u, fine⟩ := checked room
    simp only [takenFlat flat, stepsOf, List.map_nil, dictOf, fine, okBind, elementCollected flat]
  bare h := by
    have none := bareFlat flat h
    subst none
    refine ⟨by rw [takenFlat flat]; rfl, ?_⟩
    intro depth room
    obtain ⟨u, fine⟩ := checked room
    simp only [takenFlat flat, stepsOf, List.map_nil, dictOf, fine, okBind]
    rfl

theorem fragmentsNested (a : Attribute) (d : Dict) :
    fragmentsOf [(a, .nested d)] = joint a d.isBare ++ d.fragments := by
  rw [fragmentsOf, fragmentsOf, List.append_nil]

theorem takenUnderParent (h : d.isBare = true) : taken (.parent :: d.fragments) =
    ([], (.path, .parent) :: (taken d.fragments).2.1, (taken d.fragments).2.2) := by
  rcases bareShape h with rfl | ⟨inner, rfl⟩
  · rw [fragments, fragmentsOf]
    rfl
  · rw [fragments, fragmentsNested]
    cases inner.isBare <;> rfl

theorem nestedSteps (hierarchical : a.isHierarchical = true) (inner : Readable settings d) :
    (taken (fragmentsOf [(a, .nested d)])).1 = [] ∧
    (taken (fragmentsOf [(a, .nested d)])).2.2 = [] ∧
    ((∃ e further, stepsOf (fragmentsOf [(a, .nested d)]) = .element e :: further ∧
        a = (if e.axis = some .followingSibling then .sibling else .childSelector) ∧
        ∀ depth, depth + d.depth ≤ settings.maxDepth + 1 →
          dictOf settings false depth (.element e :: further) = .ok d) ∨
      ∃ further, stepsOf (fragmentsOf [(a, .nested d)]) = .parent :: further ∧ a = .fromParent ∧
        ∀ depth, depth + d.depth ≤ settings.maxDepth + 1 →
          dictOf settings true depth further = .ok d) := by
  rw [fragmentsNested]
  rcases Attribute.hierarchicalIs hierarchical with rfl | rfl | rfl
  · exact ⟨rfl, inner.whole, Or.inl ⟨_, _, rfl, rfl, fun depth => inner.element false depth none⟩⟩
  · cases bare : d.isBare with
    | true =>
      obtain ⟨_, steps⟩ := inner.bare bare
      have shape : joint .fromParent true ++ d.fragments = .parent :: d.fragments := rfl
      rw [shape]
      simp only [stepsOf, takenUnderParent bare, List.map_cons]
      exact ⟨trivial, inner.whole, Or.inr ⟨_, rfl, trivial, steps⟩⟩
    | false =>
      exact ⟨rfl, inner.whole, Or.inr ⟨_, rfl, rfl, fun depth => inner.element true depth none⟩⟩
  · exact ⟨rfl, inner.whole, Or.inl ⟨_, _, rfl, rfl,
      fun depth => inner.element false depth (some .followingSibling)⟩⟩

theorem roomBelow (flat : Flat es)
    (room : depth + (Dict.mk (es ++ [(a, .nested d)])).depth ≤ settings.maxDepth + 1) :
    (depth + 1) + d.depth ≤ settings.maxDepth + 1 := by
  rw [depthOfNesting flat] at room
  omega

theorem readableNesting (flat : Flat es) (hierarchical : a.isHierarchical = true)
    (inner : Readable settings d) : Readable settings (.mk (es ++ [(a, .nested d)])) := by
  have grouped := takenPlain flat.plain [(a, .nested d)]
  obtain ⟨noPredicate, whole, steps⟩ := nestedSteps hierarchical inner
  rw [noPredicate, whole, List.append_nil] at grouped
  have sameSteps : stepsOf (Dict.mk (es ++ [(a, .nested d)])).fragments =
      stepsOf (fragmentsOf [(a, .nested d)]) := by
    rw [stepsOf, fragments, grouped, stepsOf]
  refine ⟨by rw [fragments, grouped], ?element, ?bare⟩
  case element =>
    intro inRun depth axis room
    obtain ⟨u, fine⟩ := checked room
    rw [sameSteps, fragments, grouped]
    rcases steps with ⟨e, further, shape, isName, below⟩ | ⟨further, shape, isParent, below⟩
    · rw [shape, dictOf, fine, okBind, elementCollected flat, okBind]
      simp only [below (depth + 1) (roomBelow flat room), okBind, ← isName,
        insertNested flat hierarchical]
    · subst isParent
      rw [shape, dictOf, fine, okBind, elementCollected flat, okBind]
      simp only [below (depth + 1) (roomBelow flat room), okBind, insertNested flat hierarchical]
  case bare =>
    intro h
    obtain ⟨rfl, rfl⟩ := bareNesting h
    refine ⟨by rw [fragments, grouped]; rfl, ?_⟩
    intro depth room
    rcases steps with ⟨e, further, shape, isName, below⟩ | ⟨further, shape, _, below⟩
    · split at isName <;> cases isName
    · have under := below (depth + 1) (roomBelow flat room)
      rw [sameSteps, shape, dictOf]
      simp [under, okBind, Dict.empty, insertNested flat hierarchical]

theorem readable (h : Layered d) : Readable settings d := by
  induction h with
  | flat level => exact readableFlat level
  | nesting level hierarchical _ inner => exact readableNesting level hierarchical inner

theorem xpathOrderly (d : Having Orderly settings.maxDepth) :
    d.dict.xpath settings = .ok (String.ofList (sourceOf d.dict.fragments)) := by
  obtain ⟨more, rendered⟩ := (walkedOk xpathWalks).mpr ⟨d.sound.typed.levels, d.room⟩
  have written : d.dict.xpath settings = .ok ("//*" ++ more) := by
    rw [Dict.xpath, rendered, okBind]
  rw [written, (xpathSource written).1]

theorem sourceMeaning (d : Having Orderly settings.maxDepth)
    (fits : ∀ f ∈ d.dict.fragments, f.Fits) : (do
      let e ← Expr.ofSource (String.ofList (sourceOf d.dict.fragments))
      e.dict settings) = .ok d.dict := by
  have room := d.room
  have reads : Readable settings d.dict := readable (layered d.levels)
  have parsed := sourceParsed fits ((attachedIff _).mpr reads.whole)
  have means : (exprOf d.dict.fragments).dict settings = .ok d.dict := by
    rw [Expr.dict, listingSource, okBind]
    exact reads.element false 1 none (by omega)
  rw [Expr.ofSource, parsed]
  exact means

theorem xpathReadBack (orderly : d.Everywhere Orderly) (room : d.depth ≤ settings.maxDepth) :
    ∃ x, d.xpath settings = .ok x ∧ (do
      let e ← Expr.ofSource x
      e.dict settings) = .ok d := by
  let whole : Having Orderly settings.maxDepth := ⟨d, orderly, room⟩
  have written := xpathOrderly whole
  exact ⟨_, written, sourceMeaning whole (xpathSource written).2⟩

theorem mixedParentsReadBack :
    let d : Dict := .mk [(.text, .str "or \"]' and\n["), (.occurrence, .int 2),
      (.sibling, .nested (.mk [(.checked, .bool false),
        (.fromParent, .nested (.mk [(.fromParent, .nested .empty)]))]))]
    d.Everywhere Orderly ∧ d.depth ≤ Settings.standard.maxDepth ∧
      ∃ x, d.xpath .standard = .ok x ∧ (do
        let e ← Expr.ofSource x
        e.dict .standard) = .ok d := by
  intro d
  have orderly : d.Everywhere Orderly :=
    ⟨by decide, ⟨by decide, ⟨by decide, ⟨by decide, trivial⟩, trivial⟩, trivial⟩, trivial⟩
  have room : d.depth ≤ Settings.standard.maxDepth := by decide
  exact ⟨orderly, room, xpathReadBack orderly room⟩

end ElementLocator.Dict
