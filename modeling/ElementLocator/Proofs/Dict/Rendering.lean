import ElementLocator.Proofs.Dict.Walking
import ElementLocator.Proofs.XPath.Segment
import ElementLocator.XPath.OfDict
/-! The XPath of a dictionary as a sequence of fragments. -/
namespace ElementLocator.Dict
open ElementLocator.XPath

mutual
def fragments : Dict → List Fragment
  | .mk es => fragmentsOf es

def fragmentsOf : List (Attribute × Value) → List Fragment
  | [] => []
  | (a, .nested d) :: rest => joint a d.isBare ++ (d.fragments ++ fragmentsOf rest)
  | (a, v) :: rest => .predicate a v :: fragmentsOf rest
end

variable {settings : Settings} {depth : Nat} {es : List (Attribute × Value)} {a : Attribute}
  {v : Value} {d : Dict} {x : String}

theorem bareShape (h : d.isBare = true) :
    d = .mk [] ∨ ∃ inner, d = .mk [(.fromParent, .nested inner)] := by
  unfold Dict.isBare at h
  split at h
  · exact Or.inl rfl
  · exact Or.inr ⟨_, rfl⟩
  · cases h

theorem bareLong (e f : Attribute × Value) : (Dict.mk (e :: f :: es)).isBare = false := by
  cases h : (Dict.mk (e :: f :: es)).isBare with
  | false => rfl
  | true => rcases bareShape h with same | ⟨inner, same⟩ <;> cases same

theorem fragmentsPlain (flat : v.nested? = none) :
    fragmentsOf ((a, v) :: es) = .predicate a v :: fragmentsOf es := by
  cases v with
  | nested d => cases flat
  | _ => simp only [fragmentsOf]

theorem xpathPlain (flat : v.nested? = none) : xpathOfEntries settings depth ((a, v) :: es) = (do
    let here ← a.predicate v
    let more ← xpathOfEntries settings depth es
    .ok (here ++ more)) := by
  cases v with
  | nested d => cases flat
  | _ => simp only [xpathOfEntries]

theorem renderedText :
    (∀ (d : Dict) (depth : Nat) (x : String), d.xpathFrom settings depth = .ok x →
      Writes d.fragments x) ∧
    ∀ (es : List (Attribute × Value)) (depth : Nat) (x : String),
      xpathOfEntries settings depth es = .ok x → Writes (fragmentsOf es) x := by
  refine levels ?level ?nil ?plain ?nested
  case level =>
    intro es ih depth x h
    rw [xpathFrom] at h
    obtain ⟨_, _, h⟩ := bindOk.mp h
    rw [fragments]
    exact ih depth x h
  case nil =>
    intro depth x h
    rw [xpathOfEntries] at h
    cases h
    rw [fragmentsOf]
    exact writesNothing
  case plain =>
    intro a v rest flat ih depth x h
    rw [xpathPlain flat] at h
    obtain ⟨here, written, h⟩ := bindOk.mp h
    obtain ⟨more, later, h⟩ := bindOk.mp h
    cases h
    rw [fragmentsPlain flat]
    exact writesAppend (writesPredicate written) (ih depth more later)
  case nested =>
    intro a d rest inDict ih depth x h
    rw [xpathOfEntries] at h
    obtain ⟨inner, below, h⟩ := bindOk.mp h
    obtain ⟨joined, written, h⟩ := bindOk.mp h
    obtain ⟨more, later, h⟩ := bindOk.mp h
    cases h
    rw [fragmentsOf, String.append_assoc]
    exact writesAppend (writesJoint written)
      (writesAppend (inDict (depth + 1) inner below) (ih depth more later))

theorem xpathWalks : Walks settings (fun depth d => d.xpathFrom settings depth)
    (xpathOfEntries settings) where
  enter depth es := by
    rw [xpathFrom]
    exact sameFaultRefl _
  stop depth := ⟨"", by rw [xpathOfEntries]⟩
  plain depth a v es plain := by
    rw [xpathPlain (plainIff.mp plain).2, predicateOfPlain plain, okBind]
    exact sameFaultMade _ _
  nested depth a d es hierarchical := by
    rw [xpathOfEntries]
    refine alikeBind (sameFaultRefl _) fun inner _ _ => ?_
    rw [segmentJoint hierarchical, okBind]
    exact sameFaultMade _ _
  fits depth a v es x h := by
    cases flat : v.nested? with
    | none =>
      rw [xpathPlain flat] at h
      obtain ⟨here, written, _⟩ := bindOk.mp h
      exact (plainOfPredicate written).1.1
    | some d =>
      cases v with
      | nested d =>
        rw [xpathOfEntries] at h
        obtain ⟨_, _, h⟩ := bindOk.mp h
        obtain ⟨_, segment, _⟩ := bindOk.mp h
        exact segmentHierarchical segment
      | _ => cases flat

theorem xpathWritten (h : d.xpath settings = .ok x) :
    ∃ more, x = "//*" ++ more ∧ Writes d.fragments more := by
  obtain ⟨more, rendered, h⟩ := bindOk.mp h
  cases h
  exact ⟨more, rfl, renderedText.1 d 1 more rendered⟩

theorem xpathSource (h : d.xpath settings = .ok x) :
    x = String.ofList (sourceOf d.fragments) ∧ ∀ f ∈ d.fragments, f.Fits := by
  obtain ⟨more, rfl, written⟩ := xpathWritten h
  exact ⟨writesSource written, written.fits⟩

end ElementLocator.Dict
