import ElementLocator.Proofs.Selector.TwoStage
/-! The methods passed over on the way to the XPath of a selector and on the way to its dictionary.
Both conversions reach the calls in the same order, and so warn of the same ones and fail at the
same place. -/
namespace ElementLocator.Selector
open ElementLocator.XPath

mutual
/-- The names that no attribute has, each as often as it is called and in the order in which the
calls are reached. A call that is passed over is not entered. -/
def passedOver : Selector → List String
  | .mk calls => passedOverIn calls

def passedOverIn : List Call → List String
  | [] => []
  | .mk name args :: rest =>
      (match Attribute.ofMethod? name with
        | none => [name]
        | some a => if a.isHierarchical then passedOverBelow args else []) ++ passedOverIn rest

def passedOverBelow : List Arg → List String
  | [.nested s] => s.passedOver
  | _ => []
end

variable {settings : Settings} {depth : Nat} {d : Dict} {a : Attribute} {name : String}
  {args : List Arg} {rest : List Call} {names : List String}

def passedOverAt (a : Attribute) (args : List Arg) : List String :=
  if a.isHierarchical then passedOverBelow args else []

theorem passedOverKnown (h : Attribute.ofMethod? name = some a) :
    passedOverIn (.mk name args :: rest) = passedOverAt a args ++ passedOverIn rest := by
  rw [passedOverIn, h]
  rfl

theorem passedOverUnknown (h : Attribute.ofMethod? name = none) :
    passedOverIn (.mk name args :: rest) = name :: passedOverIn rest := by
  rw [passedOverIn, h]
  rfl

theorem resolveInStep {α β : Type} {f : Option Attribute → Noted α} {g : Option Attribute → Noted β}
    (h : Attribute.ofMethod? name = none) (others : InStep names (f none) (g none)) :
    InStep (name :: names) (settings.resolve name >>= f) (settings.resolve name >>= g) := by
  rw [Settings.resolve, h]
  cases settings.unknownMethods with
  | fail => exact inStepFail _
  | skip =>
    have skipped : InStep [name] (Noted.skip name) (Noted.skip name) :=
      ⟨rfl, List.prefix_refl _, .ok rfl⟩
    simp only [bind_assoc, pure_bind]
    exact inStepBind skipped fun _ _ => others

def SameOrder (settings : Settings) (depth : Nat) (s : Selector) : Prop :=
  InStep s.passedOver (dictAt settings depth s) (s.xpathFrom settings depth)

theorem nestedInStep (hierarchical : a.isHierarchical = true)
    (same : ∀ s, .nested s ∈ args → SameOrder settings depth s) :
    InStep (passedOverBelow args) (valueOfNested settings depth a args)
      (xpathOfNested settings depth a args) := by
  rcases nestedOrRefused a args with ⟨s, rfl⟩ | ⟨fault, refused⟩
  · rw [xpathOfSelector, valueOfNested, passedOverBelow, segmentJoint hierarchical]
    have joined := inStepBind (same s (by simp)) fun d inner =>
      inStepPure (Value.nested d) (String.ofList (textOf (joint a s.isBare)) ++ inner)
    rwa [List.append_nil] at joined
  · rw [(refused settings depth).1, (refused settings depth).2]
    exact inStepFail fault

theorem callInStep (same : ∀ s, .nested s ∈ args → SameOrder settings (depth + 1) s) :
    InStep (passedOverAt a args) (callValue settings depth a args)
      (callText settings depth a args) := by
  unfold callText callValue passedOverAt
  split
  · exact nestedInStep ‹_› same
  · have alike : Alike (Renders settings depth a) _ _ := plainAlike args
    exact inStepExcept alike

theorem inStep :
    (∀ (s : Selector) (depth : Nat), SameOrder settings depth s) ∧
    ∀ (calls : List Call) (depth : Nat) (d : Dict),
      InStep (passedOverIn calls) (dictOfCalls settings depth d calls)
        (xpathOfCalls settings depth calls) := by
  refine chains ?level ?nil ?call
  case level =>
    intro calls ih depth
    rw [SameOrder, xpathFrom, dictAt, passedOver]
    exact inStepBind (inStepSame (settings.checkDepth depth)) fun _ _ => ih depth .empty
  case nil =>
    intro depth d
    rw [xpathOfCalls, dictOfCalls, passedOverIn]
    exact inStepPure d ""
  case call =>
    intro name args rest same ih depth d
    cases found : Attribute.ofMethod? name with
    | none =>
      rw [passedOverUnknown found, dictOfNext, xpathOfNext]
      exact resolveInStep found (ih depth d)
    | some a =>
      rw [passedOverKnown found, dictOfNext, xpathOfNext, resolveQuietly found, pure_bind,
        pure_bind]
      have here : InStep (passedOverAt a args) (callValue settings depth a args)
        (callText settings depth a args) := callInStep fun s member => same s member (depth + 1)
      exact inStepBind here fun v _ => inStepMade (ih depth (d.insert a v))

/-- The dictionary of a selector and its XPath are made with the same warnings, and if one of them
fails the other one fails the same. The warnings name the unknown methods one after the other: all
of them on success, and else those that come before the failure. -/
theorem conversionsInStep (settings : Settings) (base : String) (s : Selector) :
    (s.dict settings).skipped = (s.xpath settings base).skipped ∧
      (s.dict settings).skipped <+: s.passedOver ∧
      Alike (fun _ _ => (s.dict settings).skipped = s.passedOver)
        (s.dict settings).outcome (s.xpath settings base).outcome := by
  have together : InStep s.passedOver (s.dict settings) (s.xpath settings base) :=
    inStepMade (inStep.1 s 1)
  exact ⟨together.notes, together.within, together.ends⟩

theorem parentRunInStep :
    let s (text : List Arg) : Selector := .mk [
      .mk "bogus" [.nested (.mk [.mk "unseen" []])],
      .mk "fromParent" [.nested (.mk [
        .mk "fromParent" [.nested (.mk [.mk "other" [], .mk "text" text, .mk "bogus" []])]])],
      .mk "later" []]
    (∀ text, (s text).passedOver = ["bogus", "other", "bogus", "later"]) ∧
      ((s [.str "A"]).xpath .standard "//*").outcome = .ok "//*/../..//*[@text=\"A\"]" ∧
      ((s [.str "A"]).xpath .standard "//*").skipped = (s []).passedOver ∧
      ((s []).xpath .standard "//*").outcome = .error (.conversion (.noArgument .text)) ∧
      ((s []).xpath .standard "//*").skipped = ["bogus", "other"] ∧
      ((s []).dict .standard).skipped = ["bogus", "other"] ∧
      Alike (fun _ _ => ((s []).dict .standard).skipped = (s []).passedOver)
        ((s []).dict .standard).outcome ((s []).xpath .standard "//*").outcome := by
  intro s
  have noted : ((s []).xpath .standard "//*").skipped = ["bogus", "other"] := by rfl
  obtain ⟨notes, -, ends⟩ := conversionsInStep .standard "//*" (s [])
  exact ⟨fun _ => rfl, by rfl, by rfl, by rfl, noted, notes.trans noted, ends⟩

end ElementLocator.Selector
