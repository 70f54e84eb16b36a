import ElementLocator.Proofs.Selector.Calls
import ElementLocator.Proofs.Selector.Levels
import ElementLocator.Proofs.XPath.Segment
/-! The XPath of a selector as a sequence of fragments. Calls of unknown methods have none. -/
namespace ElementLocator.Selector
open ElementLocator.XPath

def fragmentsOfValue (a : Attribute) (args : List Arg) : List Fragment :=
  match a.valueOfArguments args with
  | .ok v => [.predicate a v]
  | .error _ => []

mutual
def fragments : Selector → List Fragment
  | .mk calls => fragmentsOfCalls calls

def fragmentsOfCalls : List Call → List Fragment
  | [] => []
  | .mk name args :: rest =>
      (match Attribute.ofMethod? name with
        | none => []
        | some a =>
            if a.isHierarchical then fragmentsOfNested a args
            else fragmentsOfValue a args) ++ fragmentsOfCalls rest

def fragmentsOfNested (a : Attribute) : List Arg → List Fragment
  | [.nested s] => joint a s.isBare ++ s.fragments
  | _ => []
end

variable {settings : Settings} {depth : Nat} {a : Attribute} {name : String} {args : List Arg}
  {calls rest : List Call} {s : Selector} {x : String}

def fragmentsOfCall (a : Attribute) (args : List Arg) : List Fragment :=
  if a.isHierarchical then fragmentsOfNested a args else fragmentsOfValue a args

theorem fragmentsKnown (h : Attribute.ofMethod? name = some a) :
    fragmentsOfCalls (.mk name args :: rest) = fragmentsOfCall a args ++ fragmentsOfCalls rest := by
  rw [fragmentsOfCalls, h]
  rfl

theorem fragmentsUnknown (h : Attribute.ofMethod? name = none) :
    fragmentsOfCalls (.mk name args :: rest) = fragmentsOfCalls rest := by
  rw [fragmentsOfCalls, h]
  rfl

def Rendered (settings : Settings) (s : Selector) : Prop :=
  ∀ depth x, (s.xpathFrom settings depth).outcome = .ok x → Writes s.fragments x

theorem nestedWrites (inner : ∀ s, .nested s ∈ args → Rendered settings s)
    (h : (xpathOfNested settings depth a args).outcome = .ok x) :
    Writes (fragmentsOfNested a args) x := by
  rcases nestedOrRefused a args with ⟨s, rfl⟩ | ⟨fault, refused⟩
  · rw [xpathOfSelector, outcomeBind] at h
    obtain ⟨below, rendered, h⟩ := bindOk.mp h
    rw [outcomeBind, outcomeExcept] at h
    obtain ⟨joined, segment, h⟩ := bindOk.mp h
    cases h
    rw [fragmentsOfNested]
    exact writesAppend (writesJoint segment) (inner s (by simp) depth below rendered)
  · rw [(refused settings depth).2] at h
    cases h

theorem valueWrites (h : (do
    let v ← a.valueOfArguments args
    a.predicate v) = .ok x) : Writes (fragmentsOfValue a args) x := by
  obtain ⟨v, found, written⟩ := bindOk.mp h
  rw [fragmentsOfValue, found]
  exact writesPredicate written

theorem callWrites (inner : ∀ s, .nested s ∈ args → Rendered settings s)
    (h : (callText settings depth a args).outcome = .ok x) : Writes (fragmentsOfCall a args) x := by
  unfold callText at h
  unfold fragmentsOfCall
  split at h
  · rw [if_pos ‹_›]
    exact nestedWrites inner h
  · rw [if_neg ‹_›]
    exact valueWrites h

theorem renderedText : (∀ s : Selector, Rendered settings s) ∧
    ∀ (calls : List Call) (depth : Nat) (x : String),
      (xpathOfCalls settings depth calls).outcome = .ok x → Writes (fragmentsOfCalls calls) x := by
  refine chains ?level ?nil ?call
  case level =>
    intro calls ih depth x h
    rw [xpathFrom, outcomeBind] at h
    obtain ⟨_, _, h⟩ := bindOk.mp h
    rw [fragments]
    exact ih depth x h
  case nil =>
    intro depth x h
    rw [xpathOfCalls] at h
    cases h
    rw [fragmentsOfCalls]
    exact writesNothing
  case call =>
    intro name args rest inner ih depth x h
    rw [xpathOfCall] at h
    obtain ⟨found, resolved, h⟩ := bindOk.mp h
    cases known : Attribute.ofMethod? name with
    | some a =>
      rw [resolveKnown known] at resolved
      cases resolved
      obtain ⟨here, written, h⟩ := bindOk.mp h
      obtain ⟨more, later, h⟩ := bindOk.mp h
      cases h
      rw [fragmentsKnown known]
      exact writesAppend (callWrites inner written) (ih depth more later)
    | none =>
      cases policy : settings.unknownMethods with
      | fail =>
        rw [resolveFail known policy] at resolved
        cases resolved
      | skip =>
        rw [resolveSkip known policy] at resolved
        cases resolved
        rw [fragmentsUnknown known]
        exact ih depth x h

theorem xpathWritten (h : (s.xpath settings "//*").outcome = .ok x) :
    ∃ more, x = "//*" ++ more ∧ Writes s.fragments more := by
  rw [xpath, outcomeBind] at h
  obtain ⟨more, rendered, h⟩ := bindOk.mp h
  cases h
  exact ⟨more, rfl, renderedText.1 s 1 more rendered⟩

end ElementLocator.Selector
