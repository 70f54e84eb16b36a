import ElementLocator.Selector.Basic
/-! Selectors level by level: induction over chains of calls, and what holds of every chain. -/
namespace ElementLocator.Selector

theorem chains {P : Selector → Prop} {Q : List Call → Prop}
    (level : ∀ calls, Q calls → P (.mk calls))
    (nil : Q [])
    (call : ∀ name args rest, (∀ s, .nested s ∈ args → P s) → Q rest → Q (.mk name args :: rest)) :
    (∀ s, P s) ∧ ∀ calls, Q calls := ⟨onSelector, onCalls⟩
where
  onSelector : ∀ s, P s
    | .mk calls => level calls (onCalls calls)
  onCalls : ∀ calls, Q calls
    | [] => nil
    | .mk name args :: rest => call name args rest (onArgs args) (onCalls rest)
  onArg : ∀ (arg : Arg) (s : Selector), arg = .nested s → P s
    | .nested s, _, rfl => onSelector s
  onArgs : ∀ (args : List Arg) (s : Selector), .nested s ∈ args → P s
    | [], _, member => nomatch member
    | arg :: rest, s, member => by
        rcases List.mem_cons.mp member with same | later
        · exact onArg arg s same.symm
        · exact onArgs rest s later

mutual
def Everywhere (P : List Call → Prop) : Selector → Prop
  | .mk calls => P calls ∧ EverywhereCalls P calls

def EverywhereCalls (P : List Call → Prop) : List Call → Prop
  | [] => True
  | .mk _ args :: rest => EverywhereArgs P args ∧ EverywhereCalls P rest

def EverywhereArgs (P : List Call → Prop) : List Arg → Prop
  | [] => True
  | .nested s :: rest => s.Everywhere P ∧ EverywhereArgs P rest
  | _ :: rest => EverywhereArgs P rest
end

variable {P : List Call → Prop} {args : List Arg} {calls : List Call} {s : Selector} {arg : Arg}

theorem everywhereArgs : EverywhereArgs P args ↔ ∀ s, .nested s ∈ args → s.Everywhere P := by
  induction args with
  | nil => simp [EverywhereArgs]
  | cons arg rest ih =>
    cases arg with
    | nested s =>
      rw [EverywhereArgs, ih]
      constructor
      · rintro ⟨here, later⟩ t member
        rcases List.mem_cons.mp member with same | member
        · cases same
          exact here
        · exact later t member
      · intro h
        exact ⟨h s (by simp), fun t member => h t (by simp [member])⟩
    | _ =>
      rw [EverywhereArgs, ih]
      · simp
      · simp

theorem namesOfArg (member : .nested s ∈ args) : ∀ name ∈ s.names, name ∈ namesOfArgs args := by
  induction args with
  | nil => cases member
  | cons arg rest ih =>
    intro name named
    rcases List.mem_cons.mp member with same | later
    · cases same
      rw [namesOfArgs]
      exact List.mem_append_left _ named
    · have deeper := ih later name named
      cases arg <;> rw [namesOfArgs] <;> simp [deeper]

end ElementLocator.Selector
