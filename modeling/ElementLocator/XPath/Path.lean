import ElementLocator.Fault
/-! The steps of a path, in order. A path that can be listed is made of steps to elements and
steps to the parent; what goes to the node itself adds none. -/
namespace ElementLocator.XPath

structure Element where
  axis : Option Axis
  test : NodeTest
  predicates : List Expr

inductive PathStep where
  | element (e : Element)
  | parent

def takesAny (test : NodeTest) (predicates : List Expr) : Bool :=
  predicates.isEmpty && (test = .any || test = .kind .node)

def pathStep (axis : Option Axis) (test : NodeTest) (predicates : List Expr) :
    Except Fault (List PathStep) :=
  let element := .ok [.element ⟨axis, test, predicates⟩]
  match axis with
  | none | some .child | some .descendant | some .followingSibling => element
  | some .descendantOrSelf => if takesAny test predicates then .ok [] else element
  | some .self =>
      if takesAny test predicates then .ok [] else .error (.conversion (.unsupportedAxis .self))
  | some .parent =>
      if takesAny test predicates then .ok [.parent]
      else .error (.conversion (.unsupportedAxis .parent))
  | some axis => .error (.conversion (.unsupportedAxis axis))

def Expr.pathSize : Expr → Nat
  | .absolute _ relative => 1 + relative.pathSize
  | .binary left _ right => 1 + left.pathSize + right.pathSize
  | _ => 1

def pendingSize : List Expr → Nat
  | [] => 0
  | e :: pending => e.pathSize + pendingSize pending

def listing : List Expr → Except Fault (List PathStep)
  | [] => .ok []
  | .absolute _ relative :: pending => listing (relative :: pending)
  | .root _ :: _ => .error (.conversion .noSteps)
  | .parent :: pending => (listing pending).map (.parent :: ·)
  | .current :: pending => listing pending
  | .step axis test predicates :: pending =>
      match pathStep axis test predicates with
      | .error fault => .error fault
      | .ok here => (listing pending).map (here ++ ·)
  | .binary left op right :: pending =>
      if op.isPath then listing (left :: right :: pending)
      else .error (.conversion (.unsupportedExpression (.binary left op right)))
  | e :: _ => .error (.conversion (.unsupportedExpression e))
termination_by pending => pendingSize pending
decreasing_by
  all_goals
    simp only [pendingSize, Expr.pathSize]
    omega

def pathSteps (e : Expr) : Except Fault (List PathStep) := listing [e]

end ElementLocator.XPath
