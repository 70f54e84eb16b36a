import ElementLocator.Proofs.Dict.Insertion
import ElementLocator.Proofs.Dict.Levels
import ElementLocator.Proofs.Outcome
/-! Readers of dictionaries that check the depth of each level and insert its entries one after
another. A dictionary whose levels repeat no attribute is what such a reader makes of it. -/
namespace ElementLocator.Dict

variable {settings : Settings} {level : Nat → Dict → Except Fault Dict}
  {more : Nat → Dict → List (Attribute × Value) → Except Fault Dict}

structure Collects (settings : Settings) (level : Nat → Dict → Except Fault Dict)
    (more : Nat → Dict → List (Attribute × Value) → Except Fault Dict) : Prop where
  enter : ∀ depth es, level depth (.mk es) = (do
    settings.checkDepth depth
    more depth (.mk []) es)
  stop : ∀ depth d, more depth d [] = .ok d
  plain : ∀ depth d a v es, Plain (a, v) →
    more depth d ((a, v) :: es) = more depth (d.insert a v) es
  nested : ∀ depth d a inner es, a.isHierarchical = true →
    level (depth + 1) inner = .ok inner →
    more depth d ((a, .nested inner) :: es) = more depth (d.insert a (.nested inner)) es

theorem collected (collects : Collects settings level more) :
    (∀ (d : Dict) (depth : Nat), d.Everywhere Sound → depth + d.depth ≤ settings.maxDepth + 1 →
      level depth d = .ok d) ∧
    ∀ (es before : List (Attribute × Value)) (depth : Nat), Typed es →
      ((before ++ es).map Prod.fst).Nodup → EverywhereIn Sound es →
      depth + depthOfEntries es ≤ settings.maxDepth →
      more depth (.mk before) es = .ok (.mk (before ++ es)) := by
  refine levels ?level ?nil ?plain ?nested
  case level =>
    intro es ih depth sound room
    rw [Everywhere] at sound
    rw [Dict.depth] at room
    rw [collects.enter, checkDepthRoom (by omega), okBind]
    exact ih [] depth sound.1.typed sound.1.distinct sound.2 (by omega)
  case nil =>
    intro before depth _ _ _ _
    rw [collects.stop, List.append_nil]
  case plain =>
    intro a v rest flat ih before depth typed distinct inner room
    have plain : Plain (a, v) := plainIff.mpr ⟨typed (a, v) (by simp), flat⟩
    rw [everywherePlain flat] at inner
    rw [depthPlain flat] at room
    rw [collects.plain depth _ a v rest plain, insertNext distinct]
    rw [List.append_cons before (a, v) rest] at distinct ⊢
    exact ih (before ++ [(a, v)]) depth (fun e he => typed e (by simp [he])) distinct inner room
  case nested =>
    intro a d rest inDict ih before depth typed distinct inner room
    have hierarchical : a.isHierarchical = true := typed (a, .nested d) (by simp)
    rw [EverywhereIn] at inner
    rw [depthOfEntries] at room
    have below := inDict (depth + 1) inner.1 (by omega)
    rw [collects.nested depth _ a d rest hierarchical below, insertNext distinct]
    rw [List.append_cons before (a, .nested d) rest] at distinct ⊢
    exact ih (before ++ [(a, .nested d)]) depth (fun e he => typed e (by simp [he])) distinct
      inner.2 (by omega)

theorem collectedSound (collects : Collects settings level more)
    (d : Having Sound settings.maxDepth) : level 1 d.dict = .ok d.dict := by
  have room := d.room
  exact (collected collects).1 d.dict 1 d.levels (by omega)

end ElementLocator.Dict
