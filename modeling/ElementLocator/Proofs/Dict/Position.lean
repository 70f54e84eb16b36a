import ElementLocator.Proofs.Dict.Renderable
import ElementLocator.Proofs.XPath.Listing
/-! Positions in XPath. A number is written as the place after it, and so the greatest number has a
place that is not read as a number again. -/
namespace ElementLocator.Dict
open ElementLocator.Decimal (Magnitude)
open ElementLocator.XPath

variable {settings : Settings} {a : Attribute} {n : UInt32}

def misplaced (n : UInt32) : Fault :=
  .conversion (.badPosition ⟨false, Magnitude.ofDecimal (n.toNat + 1) 0⟩)

theorem entryOfPlace (numeric : a.kind = .numeric) (n : UInt32) :
    entryOf (asked a (.int n)) =
      if n.toNat + 1 < UInt32.size then .ok (a, .int n) else .error (misplaced n) := by
  have asks : entryOf (asked a (.int n)) = (do
      let m ← positionBefore ⟨false, Magnitude.ofDecimal (n.toNat + 1) 0⟩
      .ok (a, .int m)) := by
    rcases Attribute.numericIs numeric with rfl | rfl <;> rfl
  rw [asks, placeRead]
  split <;> rfl

theorem elementOfPlace {axis : Option Axis} (numeric : a.kind = .numeric) (n : UInt32) :
    ofElement ⟨axis, .any, [asked a (.int n)]⟩ =
      if n.toNat + 1 < UInt32.size then .ok (.mk [(a, .int n)]) else .error (misplaced n) := by
  have asks : ofElement ⟨axis, .any, [asked a (.int n)]⟩ = (do
      let e ← entryOf (asked a (.int n))
      entriesOf (Dict.empty.insert e.1 e.2) []) := rfl
  rw [asks, entryOfPlace numeric]
  split <;> rfl

theorem positionReadBack (numeric : a.kind = .numeric) (room : 1 ≤ settings.maxDepth)
    (n : UInt32) :
    let d : Dict := .mk [(a, .int n)]
    ∃ x, d.xpath settings = .ok x ∧ (do
      let e ← Expr.ofSource x
      e.dict settings) = if n.toNat + 1 < UInt32.size then .ok d else .error (misplaced n) := by
  intro d
  have plain : Plain (a, .int n) := plainInt.mpr numeric
  have typed : d.Everywhere Typed := ⟨by simpa [Typed] using plain.1, trivial⟩
  obtain ⟨x, written⟩ := xpathIff.mpr ⟨typed, room⟩
  obtain ⟨rfl, fits⟩ := xpathSource written
  refine ⟨_, written, ?_⟩
  have shape : d.fragments = [.predicate a (.int n)] := rfl
  have steps : pathSteps (exprOf d.fragments) =
      .ok [.element ⟨none, .any, [asked a (.int n)]⟩] := listingSource _
  have parsed := sourceParsed fits (by rw [shape]; rfl)
  rw [Expr.ofSource, parsed]
  simp only [okBind, Expr.dict, steps]
  rw [dictOf, checkDepthRoom room, okBind, elementOfPlace numeric]
  split <;> rfl

theorem lastPlaceReadBack :
    let d : Dict := .mk [(.index, .int 4294967294)]
    Attribute.index.kind = .numeric ∧ 1 ≤ Settings.standard.maxDepth ∧
      ∃ x, d.xpath .standard = .ok x ∧ (do
        let e ← Expr.ofSource x
        e.dict .standard) = .ok d := by
  intro d
  have room : 1 ≤ Settings.standard.maxDepth := by decide
  obtain ⟨x, written, read⟩ := positionReadBack (a := .index) rfl room 4294967294
  rw [if_pos (by decide)] at read
  exact ⟨rfl, room, x, written, read⟩

theorem greatestPositionRefused :
    (Dict.mk [(.index, .int 4294967295)]).xpath .standard = .ok "//*[position()=4294967296]" ∧
      (do
        let e ← Expr.ofSource "//*[position()=4294967296]"
        e.dict .standard) = .error (misplaced 4294967295) ∧
      (Dict.mk [(.occurrence, .int 4294967295)]).xpath .standard = .ok "//*[4294967296]" ∧
      (do
        let e ← Expr.ofSource "//*[4294967296]"
        e.dict .standard) = .error (misplaced 4294967295) := by
  refine ⟨by with_unfolding_all rfl, ?_, by with_unfolding_all rfl, ?_⟩
  · have read : Expr.ofSource "//*[position()=4294967296]" = .ok (.absolute true
        (.step none .any [asked .index (.int 4294967295)])) := by with_unfolding_all rfl
    rw [read]
    with_unfolding_all rfl
  · have read : Expr.ofSource "//*[4294967296]" = .ok (.absolute true
        (.step none .any [asked .occurrence (.int 4294967295)])) := by with_unfolding_all rfl
    rw [read]
    with_unfolding_all rfl

end ElementLocator.Dict
