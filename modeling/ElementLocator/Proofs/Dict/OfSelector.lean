import ElementLocator.Proofs.Dict.Building
import ElementLocator.Proofs.Selector.TwoStage
/-! The dictionary of a selector is sound and within the greatest depth, whatever the selector. -/
namespace ElementLocator.Selector
open ElementLocator.Dict (Admitted Built Having Sound admittedPlain admittedNested builtEmpty
  builtPlaced builtLevel)

variable {settings : Settings} {depth : Nat} {s : Selector} {args : List Arg} {a : Attribute}
  {v : Value}

def DictSound (settings : Settings) (s : Selector) : Prop :=
  ∀ depth d, (dictAt settings depth s).outcome = .ok d →
    d.Everywhere Sound ∧ depth + d.depth ≤ settings.maxDepth + 1

theorem nestedAdmitted (hierarchical : a.isHierarchical = true)
    (inner : ∀ s, .nested s ∈ args → DictSound settings s)
    (h : (valueOfNested settings (depth + 1) a args).outcome = .ok v) :
    Admitted settings depth a v := by
  rcases nestedOrRefused a args with ⟨s, rfl⟩ | ⟨fault, refused⟩
  · rw [valueOfNested, outcomeBind] at h
    obtain ⟨d, found, same⟩ := bindOk.mp h
    cases same
    obtain ⟨sound, room⟩ := inner s (by simp) (depth + 1) d found
    exact admittedNested hierarchical sound (by omega)
  · rw [(refused settings (depth + 1)).1] at h
    cases h

theorem callAdmitted (inner : ∀ s, .nested s ∈ args → DictSound settings s)
    (h : (callValue settings depth a args).outcome = .ok v) : Admitted settings depth a v := by
  unfold callValue at h
  split at h
  · rename_i hierarchical
    exact nestedAdmitted hierarchical inner h
  · exact admittedPlain (argumentsPlain h)

theorem dictBuilt : (∀ s : Selector, DictSound settings s) ∧
    ∀ (calls : List Call) (depth : Nat) (es : List (Attribute × Value)) (d : Dict),
      Built settings depth es → (dictOfCalls settings depth (.mk es) calls).outcome = .ok d →
      Built settings depth d.entries := by
  refine chains ?level ?nil ?call
  case level =>
    intro calls ih depth d h
    rw [dictAt, outcomeBind, outcomeExcept] at h
    obtain ⟨u, checked, h⟩ := bindOk.mp h
    have room : depth ≤ settings.maxDepth := checkDepthOk.mp ⟨u, checked⟩
    exact builtLevel (ih depth [] d builtEmpty h) room
  case nil =>
    intro depth es d built h
    rw [dictOfCalls] at h
    cases h
    exact built
  case call =>
    intro name args rest inner ih depth es d built h
    rw [dictOfCall] at h
    obtain ⟨found, known, h⟩ := bindOk.mp h
    cases found with
    | none => exact ih depth es d built h
    | some a =>
      obtain ⟨v, value, h⟩ := bindOk.mp h
      exact ih depth (Dict.placed a v es) d (builtPlaced built (callAdmitted inner value)) h

def soundContent {d : Dict} (content : (s.dict settings).outcome = .ok d) :
    Having Sound settings.maxDepth :=
  .ofFirstLevel (dictBuilt.1 s 1 d content).1 (dictBuilt.1 s 1 d content).2

end ElementLocator.Selector
