import ElementLocator.Dict.OfPath
import ElementLocator.Proofs.XPath.Fragment
/-! The steps that the path of fragments has. -/
namespace ElementLocator.XPath

def located : Expr → PathStep
  | .step axis test ps => .element ⟨axis, test, ps⟩
  | _ => .parent

def Simple : Expr → Prop
  | .parent => True
  | .step axis test _ => test = .any ∧ (axis = none ∨ axis = some .followingSibling)
  | _ => False

variable {e : Expr} {es pending : List Expr} {more : List (Operator × Expr)} {fs : List Fragment}
  {steps : List PathStep}

theorem listingSimple (simple : Simple e) :
    listing (e :: pending) = (listing pending).map (located e :: ·) := by
  cases e with
  | parent => rw [listing]; rfl
  | step axis test ps =>
    obtain ⟨rfl, axisIs⟩ := simple
    have here : pathStep axis .any ps = .ok [.element ⟨axis, .any, ps⟩] := by
      rcases axisIs with rfl | rfl <;> rfl
    rw [listing, here]
    rfl
  | _ => cases simple

theorem listingAll (simple : ∀ e ∈ es, Simple e) : listing es = .ok (es.map located) := by
  induction es with
  | nil => rw [listing]; rfl
  | cons e es ih =>
    rw [listingSimple (simple e (by simp)), ih fun x hx => simple x (by simp [hx])]
    rfl

theorem listingChained (paths : ∀ m ∈ more, m.1.isPath = true) (first : Expr)
    (pending : List Expr) :
    listing (chained first more :: pending) =
      listing (first :: (more.map Prod.snd ++ pending)) := by
  induction more generalizing first with
  | nil => rfl
  | cons m more ih =>
    obtain ⟨op, e⟩ := m
    have isPath : op.isPath = true := paths (op, e) (by simp)
    have rest := ih (fun n hn => paths n (by simp [hn])) (.binary first op e)
    have shape : chained first ((op, e) :: more) = chained (.binary first op e) more := rfl
    rw [shape, rest, listing, if_pos isPath]
    rfl

theorem takenSimple (fs : List Fragment) :
    ∀ m ∈ (taken fs).2.1, m.1.isPath = true ∧ Simple m.2 := by
  induction fs with
  | nil => simp [taken]
  | cons f rest ih =>
    cases f with
    | predicate a v => exact ih
    | child => simpa [taken, Simple, Operator.isPath] using ih
    | anywhere => simpa [taken, Simple, Operator.isPath] using ih
    | sibling => simpa [taken, Simple, Operator.isPath] using ih
    | parent =>
      cases rest with
      | nil => simp [taken, Simple, Operator.isPath]
      | cons g rest =>
        cases g with
        | predicate a v => simp [taken, Simple, Operator.isPath]
        | _ =>
          intro m member
          rcases List.mem_cons.mp member with rfl | later
          · exact ⟨rfl, trivial⟩
          · exact ih m later

def stepsOf (fs : List Fragment) : List PathStep := (taken fs).2.1.map fun m => located m.2

theorem listingSource (fs : List Fragment) :
    pathSteps (exprOf fs) = .ok (.element ⟨none, .any, (taken fs).1⟩ :: stepsOf fs) := by
  have simple := takenSimple fs
  have paths : ∀ m ∈ (taken fs).2.1, m.1.isPath = true := fun m hm => (simple m hm).1
  have all : ∀ e ∈ Expr.step none .any (taken fs).1 :: (taken fs).2.1.map Prod.snd, Simple e := by
    intro e member
    rcases List.mem_cons.mp member with rfl | member
    · exact ⟨rfl, Or.inl rfl⟩
    · obtain ⟨m, there, rfl⟩ := List.mem_map.mp member
      exact (simple m there).2
  rw [pathSteps, exprOf, listing, listingChained paths, List.append_nil, listingAll all]
  simp [stepsOf, located]

end ElementLocator.XPath
