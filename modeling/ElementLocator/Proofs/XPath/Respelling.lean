import ElementLocator.Dict.OfPath
import ElementLocator.Proofs.XPath.Flattening
/-! Ways to write one path: the step to the parent by its axis or by two points, further steps that
stay where they are, either stroke, and any of the axes that go down. They all have one dictionary,
since of the axes of a path only the one to a following sibling is looked at. -/
namespace ElementLocator.XPath

def NodeTest.IsAny (test : NodeTest) : Prop := test = .any ∨ test = .kind .node

def goesDown : Option Axis → Bool
  | none | some .child | some .descendant | some .descendantOrSelf => true
  | _ => false

inductive Stays : Expr → Prop where
  | current : Stays .current
  | self {test : NodeTest} (any : test.IsAny) : Stays (.step (some .self) test [])
  | descendantOrSelf {test : NodeTest} (any : test.IsAny) :
      Stays (.step (some .descendantOrSelf) test [])

/-- Two spellings of a path, which differ in any of its parts and any number of times. -/
inductive Respelled : Expr → Expr → Prop where
  | same (e : Expr) : Respelled e e
  | back {e f : Expr} (h : Respelled e f) : Respelled f e
  | next {e f g : Expr} (first : Respelled e f) (second : Respelled f g) : Respelled e g
  | parent {test : NodeTest} (any : test.IsAny) :
      Respelled .parent (.step (some .parent) test [])
  | stayBefore {b : Expr} {op : Operator} (stays : Stays b) (isPath : op.isPath = true)
      (e : Expr) : Respelled e (.binary b op e)
  | stayAfter {b : Expr} {op : Operator} (stays : Stays b) (isPath : op.isPath = true)
      (e : Expr) : Respelled e (.binary e op b)
  | axis {a b : Option Axis} {test : NodeTest} {ps : List Expr} (asks : ¬ (test.IsAny ∧ ps = []))
      (before : goesDown a = true) (after : goesDown b = true) :
      Respelled (.step a test ps) (.step b test ps)
  | binary {l m r s : Expr} {op other : Operator} (isPath : op.isPath = true)
      (isPathToo : other.isPath = true) (left : Respelled l m) (right : Respelled r s) :
      Respelled (.binary l op r) (.binary m other s)
  | absolute {e f : Expr} (descendant other : Bool) (h : Respelled e f) :
      Respelled (.absolute descendant e) (.absolute other f)

def Element.plain (e : Element) : Element :=
  { e with axis := if e.axis = some .followingSibling then some .followingSibling else none }

def PathStep.plain : PathStep → PathStep
  | .element e => .element e.plain
  | .parent => .parent

def Expr.plainSteps (e : Expr) : Except Fault (List PathStep) :=
  e.steps.map (List.map PathStep.plain)

variable {settings : Settings} {inRun : Bool} {depth : Nat} {e f l r : Expr} {op : Operator}
  {test : NodeTest} {ps : List Expr} {a b : Option Axis}

theorem plainFollows (e : Element) :
    e.plain.axis = some .followingSibling ↔ e.axis = some .followingSibling := by
  rw [Element.plain]
  split <;> simp_all

theorem plainOfElement (e : Element) : ofElement e.plain = ofElement e := rfl

theorem plainDict (settings : Settings) (inRun : Bool) (depth : Nat) :
    ∀ steps : List PathStep,
      dictOf settings inRun depth (steps.map PathStep.plain) = dictOf settings inRun depth steps
  | [] => rfl
  | .parent :: rest => by
    have below := plainDict settings true (depth + 1) rest
    simp only [List.map_cons, PathStep.plain, dictOf, below]
  | [.element e] => by
    simp only [List.map_cons, List.map_nil, PathStep.plain, dictOf, plainOfElement]
  | .element e :: .parent :: further => by
    have below := plainDict settings true (depth + 1) further
    simp only [List.map_cons, PathStep.plain, dictOf, plainOfElement, below]
  | .element e :: .element next :: further => by
    have below := plainDict settings false (depth + 1) (.element next :: further)
    simp only [List.map_cons, PathStep.plain] at below ⊢
    rw [dictOf, dictOf]
    simp only [below, plainOfElement, plainFollows]

theorem plainBinary (isPath : op.isPath = true) (l r : Expr) :
    (Expr.binary l op r).plainSteps =
      l.plainSteps >>= fun before => r.plainSteps >>= fun after => .ok (before ++ after) := by
  rw [Expr.plainSteps, Expr.steps, if_pos isPath, Expr.plainSteps, Expr.plainSteps]
  cases l.steps with
  | error fault => rfl
  | ok before =>
    cases r.steps with
    | error fault => rfl
    | ok after => simp [okBind, Except.map]

theorem takesAnyIff : takesAny test ps = true ↔ test.IsAny ∧ ps = [] := by
  simp [takesAny, NodeTest.IsAny, and_comm]

theorem stepsStay (stays : Stays e) : e.plainSteps = .ok [] := by
  cases stays with
  | current => rfl
  | self any =>
    have quiet : takesAny _ [] = true := takesAnyIff.mpr ⟨any, rfl⟩
    simp only [Expr.plainSteps, Expr.steps, pathStep, quiet, if_true]
    rfl
  | descendantOrSelf any =>
    have quiet : takesAny _ [] = true := takesAnyIff.mpr ⟨any, rfl⟩
    simp only [Expr.plainSteps, Expr.steps, pathStep, quiet, if_true]
    rfl

theorem stepsDown (asks : ¬ (test.IsAny ∧ ps = [])) (down : goesDown a = true) :
    (Expr.step a test ps).plainSteps = .ok [.element ⟨none, test, ps⟩] := by
  have element : pathStep a test ps = .ok [.element ⟨a, test, ps⟩] := by
    have loud : ¬ takesAny test ps = true := fun any => asks (takesAnyIff.mp any)
    unfold pathStep
    split <;> simp_all [goesDown]
  have forgotten : (Element.mk a test ps).plain = ⟨none, test, ps⟩ := by
    have other : a ≠ some .followingSibling := by
      rintro rfl
      cases down
    simp [Element.plain, other]
  rw [Expr.plainSteps, Expr.steps, element]
  simp [Except.map, PathStep.plain, forgotten]

theorem stepsRespelled (h : Respelled e f) : e.plainSteps = f.plainSteps := by
  induction h with
  | same e => rfl
  | back _ ih => exact ih.symm
  | next _ _ first second => exact first.trans second
  | parent any =>
    have up : takesAny _ [] = true := takesAnyIff.mpr ⟨any, rfl⟩
    simp only [Expr.plainSteps, Expr.steps, pathStep, up, if_true]
  | stayBefore stays isPath e =>
    rw [plainBinary isPath, stepsStay stays, okBind]
    cases e.plainSteps <;> rfl
  | stayAfter stays isPath e =>
    rw [plainBinary isPath, stepsStay stays]
    exact (joinedNothing e.plainSteps).symm
  | axis asks before after => rw [stepsDown asks before, stepsDown asks after]
  | binary isPath isPathToo _ _ left right =>
    rw [plainBinary isPath, plainBinary isPathToo, left, right]
  | absolute descendant other _ ih => exact ih

theorem dictOfSteps (settings : Settings) (e : Expr) :
    e.dict settings = e.plainSteps >>= dictOf settings false 1 := by
  have listed : pathSteps e = e.steps := by
    rw [pathSteps, listingNext, listing]
    exact joinedNothing e.steps
  rw [Expr.dict, listed, Expr.plainSteps]
  cases e.steps with
  | error fault => rfl
  | ok steps => exact (plainDict settings false 1 steps).symm

theorem spelledAlike (settings : Settings) (h : Respelled e f) :
    e.dict settings = f.dict settings := by
  rw [dictOfSteps, dictOfSteps, stepsRespelled h]

theorem manyWaysSpelledAlike :
    let text : Expr := .binary (.step (some .attribute) (.name "text") []) .equal (.literal "A")
    let checked : Expr :=
      .step (some .followingSibling) .any [.step (some .attribute) (.name "checked") []]
    let e : Expr := .absolute true (.binary (.binary (.binary
      (.step none (.name "Button") [text]) .path .parent) .descendantPath checked) .path .parent)
    let f : Expr := .absolute false (.binary (.binary (.binary (.binary (.binary
      .current .path (.step (some .descendant) (.name "Button") [text]))
      .descendantPath (.step (some .parent) (.kind .node) [])) .path checked)
      .path (.step (some .parent) .any [])) .descendantPath (.step (some .self) .any []))
    let d : Dict := .mk [(.className, .str "Button"), (.text, .str "A"), (.fromParent, .nested (.mk
      [(.checked, .bool true), (.fromParent, .nested (.mk []))]))]
    parse "//Button[@text='A']/..//following-sibling::*[@checked]/.." = .ok e ∧
      parse ("/./descendant::Button[@text='A']//parent::node()/following-sibling::*[@checked]" ++
        "/parent::*//self::*") = .ok f ∧
      Respelled e f ∧ e.dict .standard = .ok d ∧ f.dict .standard = .ok d := by
  intro text checked e f d
  have parsed : parse "//Button[@text='A']/..//following-sibling::*[@checked]/.." = .ok e := by
    simp only [e, text, checked]
    with_unfolding_all rfl
  have other : parse ("/./descendant::Button[@text='A']//parent::node()" ++
      "/following-sibling::*[@checked]/parent::*//self::*") = .ok f := by
    simp only [f, text, checked]
    with_unfolding_all rfl
  have button : Respelled (.step none (.name "Button") [text])
      (.binary .current .path (.step (some .descendant) (.name "Button") [text])) :=
    .next (.axis (by simp) rfl rfl) (.stayBefore .current rfl _)
  have first : Respelled (.binary (.step none (.name "Button") [text]) .path .parent)
      (.binary (.binary .current .path (.step (some .descendant) (.name "Button") [text]))
        .descendantPath (.step (some .parent) (.kind .node) [])) :=
    .binary rfl rfl button (.parent (.inr rfl))
  have respelled : Respelled e f :=
    .absolute true false (.next
      (.binary rfl rfl (.binary rfl rfl first (.same checked)) (.parent (.inl rfl)))
      (.stayAfter (.self (.inl rfl)) rfl _))
  have converts : e.dict .standard = .ok d := by
    rw [dictOfSteps]
    rfl
  have alike := spelledAlike .standard respelled
  exact ⟨parsed, other, respelled, converts, alike.symm.trans converts⟩

end ElementLocator.XPath
