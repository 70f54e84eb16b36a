import ElementLocator.Proofs.Outcome
import ElementLocator.Proofs.XPath.Fragment
import ElementLocator.XPath.Segment
/-! Rendered texts as fragments: which a text consists of, and which join a nested locator to the
locator around it. -/
namespace ElementLocator.XPath

structure Writes (fs : List Fragment) (x : String) : Prop where
  text : x.toList = textOf fs
  fits : ∀ f ∈ fs, f.Fits

variable {fs gs : List Fragment} {a : Attribute} {v : Value} {bare : Bool} {x y : String}

theorem writesNothing : Writes [] "" := ⟨rfl, by simp⟩

theorem writesAppend (first : Writes fs x) (second : Writes gs y) : Writes (fs ++ gs) (x ++ y) := by
  refine ⟨by simp [textOf, first.text, second.text], ?_⟩
  intro f member
  rcases List.mem_append.mp member with before | after
  · exact first.fits f before
  · exact second.fits f after

theorem writesPredicate (h : a.predicate v = .ok x) : Writes [.predicate a v] x := by
  obtain ⟨plain, rfl⟩ := plainOfPredicate h
  refine ⟨by simp [predicateText, textOf, Fragment.text], ?_⟩
  intro f member
  cases List.mem_singleton.mp member
  exact plain

theorem writesSource (h : Writes fs x) : "//*" ++ x = String.ofList (sourceOf fs) := by
  simp [String.ext_iff, sourceOf, h.text]

def joint (a : Attribute) (bare : Bool) : List Fragment :=
  match a with
  | .childSelector => [.child]
  | .fromParent => if bare then [.parent] else [.parent, .anywhere]
  | .sibling => [.sibling]
  | _ => []

theorem segmentJoint (h : a.isHierarchical = true) (bare : Bool) :
    segment a bare = .ok (String.ofList (textOf (joint a bare))) := by
  rcases Attribute.hierarchicalIs h with rfl | rfl | rfl <;> cases bare <;> rfl

theorem segmentHierarchical (h : segment a bare = .ok x) : a.isHierarchical = true := by
  cases a <;> first | rfl | cases h

theorem jointFits (a : Attribute) (bare : Bool) : ∀ f ∈ joint a bare, f.Fits := by
  intro f member
  have noPredicate : ∀ b v, f ≠ .predicate b v := by
    rintro b v rfl
    cases a <;> cases bare <;> simp [joint] at member
  cases f with
  | predicate b v => exact absurd rfl (noPredicate b v)
  | _ => trivial

theorem writesJoint (h : segment a bare = .ok x) : Writes (joint a bare) x := by
  rw [segmentJoint (segmentHierarchical h)] at h
  cases h
  exact ⟨by simp, jointFits a bare⟩

end ElementLocator.XPath
