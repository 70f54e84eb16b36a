import Mathlib.Data.List.Forall2
import ElementLocator.Proofs.Dict.OfPath
/-! The levels of the dictionary of a path, one for every step to the parent and for every step to an
element that does not fill a level already there. -/
namespace ElementLocator

structure Level where
  key : Option Attribute
  plain : List (Attribute × Value)

namespace Dict

def plainOf (es : List (Attribute × Value)) : List (Attribute × Value) :=
  es.filter fun e => e.2.nested?.isNone

mutual
def walk (key : Option Attribute) : Dict → List Level
  | .mk entries => ⟨key, plainOf entries⟩ :: walkBelow entries

def walkBelow : List (Attribute × Value) → List Level
  | [] => []
  | (a, .nested d) :: rest => d.walk (some a) ++ walkBelow rest
  | _ :: rest => walkBelow rest
end

variable {es : List (Attribute × Value)} {a : Attribute} {d : Dict}

theorem plainOfFlat (flat : Flat es) : plainOf es = es := by
  rw [plainOf, List.filter_eq_self]
  intro e member
  rw [(plainIff.mp (flat.plain e member)).2]
  rfl

theorem walkBelowFlat (flat : Flat es) (rest : List (Attribute × Value)) :
    walkBelow (es ++ rest) = walkBelow rest := by
  have plain := flat.plain
  clear flat
  induction es with
  | nil => rfl
  | cons e es ih =>
    obtain ⟨a, v⟩ := e
    have noNested := (plainIff.mp (plain (a, v) (by simp))).2
    have later := ih fun x member => plain x (by simp [member])
    cases v with
    | nested d => cases noNested
    | _ => rw [List.cons_append, walkBelow, later]; nofun

theorem walkOfFlat (flat : Flat es) (key : Option Attribute) :
    (Dict.mk es).walk key = [⟨key, es⟩] := by
  have below := walkBelowFlat flat []
  rw [List.append_nil] at below
  rw [walk, plainOfFlat flat, below, walkBelow]

theorem walkOfNesting (flat : Flat es) (a : Attribute) (d : Dict) (key : Option Attribute) :
    (Dict.mk (es ++ [(a, .nested d)])).walk key = ⟨key, es⟩ :: d.walk (some a) := by
  have plain : plainOf (es ++ [(a, .nested d)]) = es := by
    rw [plainOf, List.filter_append]
    exact (congrArg (· ++ []) (plainOfFlat flat)).trans (List.append_nil es)
  rw [walk, plain, walkBelowFlat flat, walkBelow, walkBelow, List.append_nil]

end Dict

namespace XPath
open ElementLocator.Dict (Flat Orderly Layered)

def Element.joint (e : Element) : Attribute :=
  if e.axis = some .followingSibling then .sibling else .childSelector

structure Stop where
  key : Option Attribute
  element : Option Element

/-- The levels that a path comes to from one that it has reached. -/
def stops (here : Stop) : List PathStep → List Stop
  | [] => [here]
  | .parent :: rest => here :: stops ⟨some .fromParent, none⟩ rest
  | .element e :: rest =>
      match here.element with
      | none => stops ⟨here.key, some e⟩ rest
      | some _ => here :: stops ⟨some e.joint, some e⟩ rest

def Fills (s : Stop) (l : Level) : Prop :=
  l.key = s.key ∧ match s.element with
    | none => l.plain = []
    | some e => ofElement e = .ok (.mk l.plain)

def PathStep.isParent : PathStep → Bool
  | .parent => true
  | .element _ => false

def parents (steps : List PathStep) : Nat := steps.countP PathStep.isParent

def joints (steps : List PathStep) : Nat :=
  (steps.zip steps.tail).countP fun (before, s) => !before.isParent && !s.isParent

inductive Folds : List PathStep → Dict → Prop where
  | nothing : Folds [] .empty
  | up {rest : List PathStep} {d : Dict} (inner : Folds rest d) :
      Folds (.parent :: rest) (.mk [(.fromParent, .nested d)])
  | last {e : Element} {es : List (Attribute × Value)} (here : ofElement e = .ok (.mk es)) :
      Folds [.element e] (.mk es)
  | elementUp {e : Element} {es : List (Attribute × Value)} {rest : List PathStep} {d : Dict}
      (here : ofElement e = .ok (.mk es)) (inner : Folds rest d) :
      Folds (.element e :: .parent :: rest) (.mk (es ++ [(.fromParent, .nested d)]))
  | elementNext {e next : Element} {es : List (Attribute × Value)} {rest : List PathStep}
      {d : Dict} (here : ofElement e = .ok (.mk es)) (inner : Folds (.element next :: rest) d) :
      Folds (.element e :: .element next :: rest) (.mk (es ++ [(next.joint, .nested d)]))

variable {settings : Settings} {inRun : Bool} {depth : Nat} {steps rest : List PathStep} {d : Dict}
  {e next : Element} {es : List (Attribute × Value)}

theorem jointHierarchical (e : Element) : e.joint.isHierarchical = true := by
  unfold Element.joint
  split <;> rfl

theorem parentsUp : parents (.parent :: rest) = parents rest + 1 := List.countP_cons_of_pos rfl

theorem parentsElement : parents (.element e :: rest) = parents rest :=
  List.countP_cons_of_neg (by exact nofun)

theorem jointsUp : joints (.parent :: rest) = joints rest := by
  cases rest <;> simp [joints, PathStep.isParent]

theorem jointsElementUp : joints (.element e :: .parent :: rest) = joints rest := by
  have up : joints (.parent :: rest) = joints rest := jointsUp
  simp_all [joints, PathStep.isParent]

theorem jointsElementNext :
    joints (.element e :: .element next :: rest) = joints (.element next :: rest) + 1 := by
  simp [joints, PathStep.isParent]

theorem foldsOf (h : dictOf settings inRun depth steps = .ok d) : Folds steps d := by
  fun_induction dictOf settings inRun depth steps generalizing d with
  | case1 inRun depth =>
    obtain ⟨_, _, h⟩ := bindOk.mp h
    cases h
    exact .nothing
  | case2 =>
    rename_i ih
    obtain ⟨_, _, h⟩ := bindOk.mp h
    obtain ⟨inner, found, h⟩ := bindOk.mp h
    cases h
    exact .up (ih found)
  | case3 =>
    rename_i ih
    obtain ⟨inner, found, h⟩ := bindOk.mp h
    cases h
    exact .up (ih found)
  | case4 inRun depth e rest ih =>
    obtain ⟨_, _, h⟩ := bindOk.mp h
    obtain ⟨start, element, h⟩ := bindOk.mp h
    obtain ⟨es, rfl, flat⟩ := Dict.elementFlat element
    cases rest with
    | nil =>
      cases h
      exact .last element
    | cons step further =>
      cases step with
      | parent =>
        obtain ⟨inner, found, h⟩ := bindOk.mp h
        cases h
        rw [Dict.insertNested flat rfl]
        exact .elementUp element (ih found)
      | element next =>
        obtain ⟨inner, found, h⟩ := bindOk.mp h
        cases h
        have placed := Dict.insertNested flat (jointHierarchical next) inner
        rw [Element.joint] at placed
        rw [placed]
        exact .elementNext element (ih found)

theorem elementPlain (here : ofElement e = .ok (.mk es)) : Flat es := by
  obtain ⟨_, same, flat⟩ := Dict.elementFlat here
  cases same
  exact flat

theorem dictOfFolds (folds : Folds steps d)
    (room : depth + parents steps + joints steps ≤ settings.maxDepth) :
    dictOf settings inRun depth steps = .ok d := by
  induction folds generalizing depth inRun with
  | nothing =>
    rw [dictOf, checkDepthRoom (by omega)]
    rfl
  | up inner ih =>
    rw [parentsUp, jointsUp] at room
    have below : dictOf settings true (depth + 1) _ = _ := ih (by omega)
    rw [dictOf, below, checkDepthRoom (by omega)]
    cases inRun <;> rfl
  | last here =>
    rw [dictOf, checkDepthRoom (by omega), okBind, here]
    rfl
  | elementUp here inner ih =>
    rw [parentsElement, parentsUp, jointsElementUp] at room
    have below : dictOf settings true (depth + 1) _ = _ := ih (by omega)
    have placed (d : Dict) :=
      Dict.insertNested (elementPlain here) (rfl : Attribute.fromParent.isHierarchical = true) d
    rw [dictOf, checkDepthRoom (by omega), okBind, here, okBind]
    simp only [below, okBind, placed]
  | @elementNext e next es rest d here inner ih =>
    rw [parentsElement, jointsElementNext] at room
    have below : dictOf settings false (depth + 1) _ = _ := ih (by omega)
    have placed := Dict.insertNested (elementPlain here) (jointHierarchical next) d
    rw [Element.joint] at placed
    rw [dictOf, checkDepthRoom (by omega), okBind, here, okBind]
    simp only [below, okBind, placed, Element.joint]

theorem foldsElements (folds : Folds steps d) :
    ∀ e, .element e ∈ steps → ∃ d, ofElement e = .ok d := by
  have both {e s : Element} {d : Dict} (here : ofElement s = .ok d) (same : e = s) :
      ∃ d, ofElement e = .ok d := ⟨d, same ▸ here⟩
  induction folds with
  | nothing => simp
  | up inner ih => simpa using ih
  | last here => simpa using ⟨_, here⟩
  | elementUp here inner ih =>
    intro e member
    rcases List.mem_cons.mp member with same | later
    · exact both here (PathStep.element.inj same)
    · exact ih e (by simpa using later)
  | elementNext here inner ih =>
    intro e member
    rcases List.mem_cons.mp member with same | later
    · exact both here (PathStep.element.inj same)
    · exact ih e later

theorem foldsOfElements : ∀ steps : List PathStep,
    (∀ e, .element e ∈ steps → ∃ d, ofElement e = .ok d) → ∃ d, Folds steps d
  | [], _ => ⟨_, .nothing⟩
  | .parent :: rest, understood => by
    obtain ⟨d, inner⟩ := foldsOfElements rest fun e later => understood e (by simp [later])
    exact ⟨_, .up inner⟩
  | [.element e], understood => by
    obtain ⟨⟨es⟩, here⟩ := understood e (by simp)
    exact ⟨_, .last here⟩
  | .element e :: .parent :: rest, understood => by
    obtain ⟨⟨es⟩, here⟩ := understood e (by simp)
    obtain ⟨d, inner⟩ := foldsOfElements rest fun e later => understood e (by simp [later])
    exact ⟨_, .elementUp here inner⟩
  | .element e :: .element next :: rest, understood => by
    obtain ⟨⟨es⟩, here⟩ := understood e (by simp)
    obtain ⟨d, inner⟩ := foldsOfElements (.element next :: rest) fun e later =>
      understood e (List.mem_cons_of_mem _ later)
    exact ⟨_, .elementNext here inner⟩

theorem foldsDepth (folds : Folds steps d) : d.depth = 1 + parents steps + joints steps := by
  induction folds with
  | nothing => rfl
  | @up rest d inner ih =>
    have deep : (Dict.mk [(.fromParent, .nested d)]).depth = 1 + d.depth :=
      Dict.depthOfNesting Dict.flatEmpty .fromParent d
    rw [deep, ih, parentsUp, jointsUp]
    omega
  | last here => exact Dict.depthOfFlat (elementPlain here)
  | elementUp here inner ih =>
    rw [Dict.depthOfNesting (elementPlain here), ih, parentsElement, parentsUp, jointsElementUp]
    omega
  | elementNext here inner ih =>
    rw [Dict.depthOfNesting (elementPlain here), ih, jointsElementNext]
    simp only [parentsElement]
    omega

theorem foldsWalked (folds : Folds steps d) (key : Option Attribute) :
    List.Forall₂ Fills (stops ⟨key, none⟩ steps) (d.walk key) := by
  induction folds generalizing key with
  | nothing => exact .cons ⟨rfl, rfl⟩ .nil
  | @up rest d inner ih =>
    have levels : (Dict.mk [(.fromParent, .nested d)]).walk key = _ :=
      Dict.walkOfNesting Dict.flatEmpty .fromParent d key
    rw [stops, levels]
    exact .cons ⟨rfl, rfl⟩ (ih (some .fromParent))
  | last here =>
    rw [Dict.walkOfFlat (elementPlain here)]
    exact .cons ⟨rfl, here⟩ .nil
  | elementUp here inner ih =>
    rw [Dict.walkOfNesting (elementPlain here)]
    exact .cons ⟨rfl, here⟩ (ih (some .fromParent))
  | @elementNext e next es rest d here inner ih =>
    rw [Dict.walkOfNesting (elementPlain here)]
    exact .cons ⟨rfl, here⟩ (ih (some next.joint))

/-- A path is converted exactly if each of its steps to an element is understood and its levels are
within the depth that is allowed: the first one, one for each step to the parent, and one for
each step to an element directly after another. The dictionary then has these levels in the
order of the path, each at the end of the one before and with what its step states. -/
theorem everyStepFolded (settings : Settings) (steps : List PathStep) :
    ((∃ d, dictOf settings false 1 steps = .ok d) ↔
      (∀ e, .element e ∈ steps → ∃ d, ofElement e = .ok d) ∧
        1 + parents steps + joints steps ≤ settings.maxDepth) ∧
    ∀ d, dictOf settings false 1 steps = .ok d →
      d.Everywhere Orderly ∧
      List.Forall₂ Fills (stops ⟨none, none⟩ steps) (d.walk none) ∧
      d.depth = 1 + parents steps + joints steps := by
  have within {d : Dict} (h : dictOf settings false 1 steps = .ok d) :
      1 + parents steps + joints steps ≤ settings.maxDepth := by
    have room := (Dict.pathLayered h).2
    rw [foldsDepth (foldsOf h)] at room
    omega
  refine ⟨⟨?_, ?_⟩, ?_⟩
  · rintro ⟨d, h⟩
    exact ⟨foldsElements (foldsOf h), within h⟩
  · rintro ⟨understood, room⟩
    obtain ⟨d, folds⟩ := foldsOfElements steps understood
    exact ⟨d, dictOfFolds folds room⟩
  · intro d h
    exact ⟨Dict.orderlyOfLayered (Dict.pathLayered h).1, foldsWalked (foldsOf h) none,
      foldsDepth (foldsOf h)⟩

theorem mixedStepsFolded :
    let button : Element := ⟨some .followingSibling, .name "Button", []⟩
    let checked : Element :=
      ⟨some .followingSibling, .any, [.step (some .attribute) (.name "checked") []]⟩
    let steps : List PathStep :=
      [.parent, .element button, .element checked, .parent, .parent, .element checked,
        .element ⟨none, .kind .node, []⟩, .parent]
    let d : Dict := .mk [(.fromParent, .nested (.mk [(.className, .str "Button"),
      (.sibling, .nested (.mk [(.checked, .bool true), (.fromParent, .nested (.mk [
        (.fromParent, .nested (.mk [(.checked, .bool true), (.childSelector, .nested (.mk [
          (.fromParent, .nested (.mk []))]))]))]))]))]))]
    dictOf .standard false 1 steps = .ok d ∧ parents steps = 4 ∧ joints steps = 2 ∧
      d.Everywhere Orderly ∧ List.Forall₂ Fills (stops ⟨none, none⟩ steps) (d.walk none) ∧
      d.depth = 1 + 4 + 2 := by
  intro button checked steps d
  have converts : dictOf .standard false 1 steps = .ok d := by rfl
  obtain ⟨_, folded⟩ := everyStepFolded .standard steps
  exact ⟨converts, rfl, rfl, folded d converts⟩

end XPath
end ElementLocator
