import ElementLocator.Dict.OfPath
import ElementLocator.Proofs.Dict.Insertion
import ElementLocator.Proofs.Dict.Levels
import ElementLocator.Proofs.XPath.Entry
/-! Every dictionary that a path is turned into is orderly and within the depth that is allowed. -/
namespace ElementLocator.Dict
open ElementLocator.XPath

variable {settings : Settings} {depth : Nat} {es : List (Attribute × Value)} {a : Attribute}
  {v : Value} {d : Dict} {ps : List Expr} {inRun : Bool} {steps : List PathStep}

theorem flatPlaced (flat : Flat es) (plain : Plain (a, v)) (places : v.hasPlace = true) :
    Flat (placed a v es) where
  plain e member := by
    rcases placedMember member with rfl | before
    · exact plain
    · exact flat.plain e before
  distinct := placedDistinct flat.distinct a v
  places e member := by
    rcases placedMember member with rfl | before
    · exact places
    · exact flat.places e before

theorem insertNested (flat : Flat es) (hierarchical : a.isHierarchical = true) (d : Dict) :
    (Dict.mk es).insert a (.nested d) = .mk (es ++ [(a, .nested d)]) :=
  insertFresh (flatFresh flat hierarchical) _

theorem entriesFlat (flat : Flat es) (h : entriesOf (.mk es) ps = .ok d) :
    ∃ es, d = .mk es ∧ Flat es := by
  induction ps generalizing es with
  | nil =>
    rw [entriesOf] at h
    cases h
    exact ⟨es, rfl, flat⟩
  | cons p rest ih =>
    rw [entriesOf] at h
    obtain ⟨⟨a, v⟩, entry, h⟩ := bindOk.mp h
    obtain ⟨plain, places⟩ := entryPlain entry
    exact ih (flatPlaced flat plain places) h

theorem flatEmpty : Flat [] := ⟨by simp, List.nodup_nil, by simp⟩

theorem elementFlat {e : Element} (h : ofElement e = .ok d) : ∃ es, d = .mk es ∧ Flat es := by
  rw [ofElement] at h
  split at h
  · exact entriesFlat flatEmpty h
  · exact entriesFlat flatEmpty h
  · exact entriesFlat (flatPlaced flatEmpty ⟨rfl, rfl⟩ rfl) h
  · cases h

theorem nestingLayered (flat : Flat es) (hierarchical : a.isHierarchical = true)
    (inner : Layered d ∧ (depth + 1) + d.depth ≤ settings.maxDepth + 1) :
    Layered ((Dict.mk es).insert a (.nested d)) ∧
      depth + ((Dict.mk es).insert a (.nested d)).depth ≤ settings.maxDepth + 1 := by
  rw [insertNested flat hierarchical, depthOfNesting flat]
  exact ⟨.nesting flat hierarchical inner.1, by omega⟩

theorem flatLayered (flat : Flat es) (room : depth ≤ settings.maxDepth) :
    Layered (.mk es) ∧ depth + (Dict.mk es).depth ≤ settings.maxDepth + 1 := by
  rw [depthOfFlat flat]
  exact ⟨.flat flat, by omega⟩

theorem pathLayered (h : dictOf settings inRun depth steps = .ok d) :
    Layered d ∧ depth + d.depth ≤ settings.maxDepth + 1 := by
  fun_induction dictOf settings inRun depth steps generalizing d with
  | case1 inRun depth =>
    obtain ⟨_, checked, h⟩ := bindOk.mp h
    cases h
    exact flatLayered flatEmpty (checkDepthOk.mp ⟨_, checked⟩)
  | case2 =>
    rename_i ih
    obtain ⟨_, _, h⟩ := bindOk.mp h
    obtain ⟨inner, found, h⟩ := bindOk.mp h
    cases h
    exact nestingLayered flatEmpty rfl (ih found)
  | case3 =>
    rename_i ih
    obtain ⟨inner, found, h⟩ := bindOk.mp h
    cases h
    exact nestingLayered flatEmpty rfl (ih found)
  | case4 inRun depth e rest ih =>
    obtain ⟨_, checked, h⟩ := bindOk.mp h
    obtain ⟨start, element, h⟩ := bindOk.mp h
    obtain ⟨es, rfl, flat⟩ := elementFlat element
    cases rest with
    | nil =>
      cases h
      exact flatLayered flat (checkDepthOk.mp ⟨_, checked⟩)
    | cons step further =>
      cases step with
      | parent =>
        obtain ⟨inner, found, h⟩ := bindOk.mp h
        cases h
        exact nestingLayered flat rfl (ih found)
      | element next =>
        obtain ⟨inner, found, h⟩ := bindOk.mp h
        cases h
        exact nestingLayered flat (by split <;> rfl) (ih found)

end ElementLocator.Dict
