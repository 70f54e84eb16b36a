import ElementLocator.Dict.OfSelector
import ElementLocator.Proofs.Outcome
import ElementLocator.XPath.OfSelector
/-! What one call of a selector adds to a dictionary and to an XPath. -/
namespace ElementLocator.Selector

variable {settings : Settings} {depth : Nat} {d : Dict} {a : Attribute} {name : String}
  {args : List Arg} {rest : List Call}

theorem methodFound (h : Attribute.ofMethod? name = some a) : a.method = name := by
  have := List.find?_some h
  simpa using this

theorem methodInjective {b : Attribute} (same : a.method = b.method) : a = b := by
  have found := Attribute.ofMethodOfMethod a
  rw [same, Attribute.ofMethodOfMethod] at found
  exact (Option.some.inj found).symm

theorem resolveQuietly (h : Attribute.ofMethod? name = some a) :
    settings.resolve name = pure (some a) := by
  rw [Settings.resolve, h]

theorem resolveKnown (h : Attribute.ofMethod? name = some a) :
    (settings.resolve name).outcome = .ok (some a) := by
  rw [resolveQuietly h]
  rfl

theorem resolveFail (h : Attribute.ofMethod? name = none)
    (fails : settings.unknownMethods = .fail) :
    (settings.resolve name).outcome = .error (.conversion (.unknownMethod name)) := by
  rw [Settings.resolve, h, fails]
  rfl

theorem resolveSkip (h : Attribute.ofMethod? name = none)
    (skips : settings.unknownMethods = .skip) :
    (settings.resolve name).outcome = .ok none := by
  rw [Settings.resolve, h, skips]
  rfl

def callValue (settings : Settings) (depth : Nat) (a : Attribute) (args : List Arg) :
    Noted Value :=
  if a.isHierarchical then valueOfNested settings (depth + 1) a args
  else Noted.ofExcept (a.valueOfArguments args)

def callText (settings : Settings) (depth : Nat) (a : Attribute) (args : List Arg) :
    Noted String :=
  if a.isHierarchical then xpathOfNested settings (depth + 1) a args
  else Noted.ofExcept do
    let v ← a.valueOfArguments args
    a.predicate v

theorem xpathOfParentStep (s : Selector) : xpathOfParent settings depth s = (do
    let inner ← xpathFrom settings depth s
    let segment ← Noted.ofExcept (XPath.segment .fromParent s.isBare)
    pure (segment ++ inner)) := by
  obtain ⟨calls⟩ := s
  cases calls with
  | nil =>
    rw [xpathOfParent, xpathFrom, xpathOfCalls, bind_assoc]
    rfl
  | cons call rest =>
    obtain ⟨name, args⟩ := call
    rw [xpathOfParent, xpathFrom, bind_assoc]
    by_cases run : rest = [] ∧ name = Attribute.fromParent.method
    · obtain ⟨rfl, rfl⟩ := run
      have found := Attribute.ofMethodOfMethod .fromParent
      have bare : (Selector.mk [.mk Attribute.fromParent.method args]).isBare = true := rfl
      have hierarchical : Attribute.fromParent.isHierarchical = true := rfl
      rw [if_pos ⟨rfl, rfl⟩, xpathOfCalls, xpathOfCalls, resolveQuietly found, bare]
      simp only [pure_bind, hierarchical, if_true, bind_assoc, String.append_empty]
      rfl
    · have wide : (Selector.mk (.mk name args :: rest)).isBare = false := by
        cases rest with
        | nil => exact decide_eq_false fun same => run ⟨rfl, same⟩
        | cons _ _ => rfl
      rw [if_neg run, wide]
      rfl

theorem xpathOfSelector (s : Selector) : xpathOfNested settings depth a [.nested s] = (do
    let inner ← xpathFrom settings depth s
    let segment ← Noted.ofExcept (XPath.segment a s.isBare)
    pure (segment ++ inner)) := by
  rw [xpathOfNested]
  split
  · rename_i parent
    rw [parent, xpathOfParentStep]
  · rfl

theorem nestedOrRefused (a : Attribute) (args : List Arg) :
    (∃ s, args = [.nested s]) ∨ ∃ fault, ∀ settings depth,
      valueOfNested settings depth a args = Noted.fail fault ∧
        xpathOfNested settings depth a args = Noted.fail fault := by
  match args with
  | [.nested s] => exact .inl ⟨s, rfl⟩
  | [] | [.str _] | [.int _] | [.bool _] | [.ident _] => exact .inr ⟨_, fun _ _ => ⟨rfl, rfl⟩⟩
  | x :: y :: more => cases x <;> exact .inr ⟨_, fun _ _ => ⟨rfl, rfl⟩⟩

theorem dictOfNext : dictOfCalls settings depth d (.mk name args :: rest) = (do
    match ← settings.resolve name with
    | none => dictOfCalls settings depth d rest
    | some a => do
        let v ← callValue settings depth a args
        dictOfCalls settings depth (d.insert a v) rest) := by
  rw [dictOfCalls]
  congr 1
  funext found
  cases found with
  | none => rfl
  | some a =>
    simp only [callValue]
    split <;> rfl

theorem xpathOfNext : xpathOfCalls settings depth (.mk name args :: rest) = (do
    match ← settings.resolve name with
    | none => xpathOfCalls settings depth rest
    | some a => do
        let here ← callText settings depth a args
        let more ← xpathOfCalls settings depth rest
        pure (here ++ more)) := by
  rw [xpathOfCalls]
  congr 1
  funext found
  cases found with
  | none => simp only [pure_bind, String.empty_append, bind_pure]
  | some a =>
    simp only [callText]
    split <;> rfl

theorem dictOfCall : (dictOfCalls settings depth d (.mk name args :: rest)).outcome = (do
    match ← (settings.resolve name).outcome with
    | none => (dictOfCalls settings depth d rest).outcome
    | some a => do
        let v ← (callValue settings depth a args).outcome
        (dictOfCalls settings depth (d.insert a v) rest).outcome) := by
  rw [dictOfNext, outcomeBind]
  congr 1
  funext found
  cases found with
  | none => rfl
  | some a => exact outcomeBind _ _

theorem xpathOfCall : (xpathOfCalls settings depth (.mk name args :: rest)).outcome = (do
    match ← (settings.resolve name).outcome with
    | none => (xpathOfCalls settings depth rest).outcome
    | some a => do
        let here ← (callText settings depth a args).outcome
        let more ← (xpathOfCalls settings depth rest).outcome
        .ok (here ++ more)) := by
  rw [xpathOfNext, outcomeBind]
  congr 1
  funext found
  cases found with
  | none => rfl
  | some a => simp only [outcomeBind, outcomePure]

end ElementLocator.Selector
