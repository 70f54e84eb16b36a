import ElementLocator.Proofs.Outcome
import ElementLocator.XPath.Path
/-! The steps of a path by recursion over its expression, and that listing with the pending
expressions kept on a stack comes to the same steps or the same fault. -/
namespace ElementLocator.XPath

def Expr.steps : Expr → Except Fault (List PathStep)
  | .absolute _ relative => relative.steps
  | .root _ => .error (.conversion .noSteps)
  | .binary left op right =>
      if op.isPath then do
        let before ← left.steps
        let after ← right.steps
        .ok (before ++ after)
      else .error (.conversion (.unsupportedExpression (.binary left op right)))
  | .parent => .ok [.parent]
  | .current => .ok []
  | .step axis test predicates => pathStep axis test predicates
  | e => .error (.conversion (.unsupportedExpression e))

theorem joinedNothing (steps : Except Fault (List PathStep)) :
    (steps >>= fun here => .ok (here ++ [])) = steps := by
  cases steps with
  | error fault => rfl
  | ok here => rw [okBind, List.append_nil]

theorem listingNext (e : Expr) (pending : List Expr) :
    listing (e :: pending) =
      e.steps >>= fun here => listing pending >>= fun more => .ok (here ++ more) := by
  fun_induction Expr.steps e generalizing pending with
  | case1 d relative ih =>
    rw [listing]
    exact ih pending
  | case2 d =>
    rw [listing]
    rfl
  | case3 left op right isPath ihLeft ihRight =>
    rw [listing, if_pos isPath, ihLeft, ihRight]
    cases left.steps with
    | error fault => rfl
    | ok before =>
      cases right.steps with
      | error fault => rfl
      | ok after =>
        cases listing pending with
        | error fault => rfl
        | ok more => simp only [okBind, List.append_assoc]
  | case4 left op right noPath =>
    rw [listing, if_neg noPath]
    rfl
  | case5 =>
    rw [listing]
    cases listing pending <;> rfl
  | case6 =>
    rw [listing]
    cases listing pending <;> rfl
  | case7 axis test predicates =>
    rw [listing]
    cases pathStep axis test predicates with
    | error fault => rfl
    | ok here => cases listing pending <;> rfl
  | case8 e noAbsolute noRoot noBinary noParent noCurrent noStep =>
    rw [listing.eq_8 e pending noAbsolute noRoot noParent noCurrent noStep noBinary]
    rfl

theorem flattenedInOrder (e : Expr) : pathSteps e = e.steps := by
  rw [pathSteps, listingNext, listing]
  exact joinedNothing e.steps

end ElementLocator.XPath
