import ElementLocator.Proofs.Attribute.Takes
import ElementLocator.Proofs.Selector.Calls
import ElementLocator.Proofs.Selector.Levels
/-! Passing over unknown methods, and leaving their calls out beforehand. Both give the same
dictionary and fail alike. The XPath is the same too, unless a parent has calls and is bare once the
unknown ones are gone: the renderer looks at the calls as they are written. -/
namespace ElementLocator.Selector

mutual
def stripped : Selector → Selector
  | .mk calls => .mk (strippedCalls calls)

def strippedCalls : List Call → List Call
  | [] => []
  | .mk name args :: rest =>
      match Attribute.ofMethod? name with
      | none => strippedCalls rest
      | some a =>
          .mk name (if a.isHierarchical then strippedArgs args else args) :: strippedCalls rest

def strippedArgs : List Arg → List Arg
  | [] => []
  | arg :: rest => strippedArg arg :: strippedArgs rest

def strippedArg : Arg → Arg
  | .nested s => .nested s.stripped
  | arg => arg
end

mutual
/-- Every parent that is bare without its unknown calls is bare as it is written. -/
def KeepsParents : Selector → Prop
  | .mk calls => KeepsParentsIn calls

def KeepsParentsIn : List Call → Prop
  | [] => True
  | .mk name args :: rest =>
      (match Attribute.ofMethod? name with
        | none => True
        | some a => a.isHierarchical = true → KeepsParentsOf a args) ∧ KeepsParentsIn rest

def KeepsParentsOf (a : Attribute) : List Arg → Prop
  | [.nested s] => (a = .fromParent → s.stripped.isBare = true → s.isBare = true) ∧ s.KeepsParents
  | _ => True
end

variable {settings : Settings} {depth : Nat} {d : Dict} {a : Attribute} {name : String}
  {args : List Arg} {calls rest : List Call} {s : Selector}

theorem strippedKnown (h : Attribute.ofMethod? name = some a) :
    strippedCalls (.mk name args :: rest) =
      .mk name (if a.isHierarchical then strippedArgs args else args) :: strippedCalls rest := by
  rw [strippedCalls, h]

theorem strippedUnknown (h : Attribute.ofMethod? name = none) :
    strippedCalls (.mk name args :: rest) = strippedCalls rest := by
  rw [strippedCalls, h]

theorem strippedLength (args : List Arg) : (strippedArgs args).length = args.length := by
  induction args with
  | nil => rw [strippedArgs]
  | cons arg rest ih => rw [strippedArgs, List.length_cons, ih, List.length_cons]

theorem valueOfMany (x y : Arg) (more : List Arg) :
    (valueOfNested settings depth a (x :: y :: more)).outcome =
      .error (.conversion (.oneSelectorExpected a (more.length + 2))) := by
  cases x <;> rfl

theorem strippedValue
    (same : ∀ s, .nested s ∈ args →
      (dictAt settings depth s).outcome = (dictAt settings depth s.stripped).outcome) :
    (valueOfNested settings depth a args).outcome =
      (valueOfNested settings depth a (strippedArgs args)).outcome := by
  match args with
  | [] => rfl
  | [.nested s] =>
    simp only [strippedArgs, strippedArg, valueOfNested, outcomeBind, same s (by simp)]
  | [.str _] | [.int _] | [.bool _] | [.ident _] => rfl
  | x :: y :: more =>
    rw [strippedArgs, strippedArgs, valueOfMany, valueOfMany, strippedLength]

theorem strippedDict (skips : settings.unknownMethods = .skip) :
    (∀ (s : Selector) (depth : Nat),
      (dictAt settings depth s).outcome = (dictAt settings depth s.stripped).outcome) ∧
    ∀ (calls : List Call) (depth : Nat) (d : Dict),
      (dictOfCalls settings depth d calls).outcome =
        (dictOfCalls settings depth d (strippedCalls calls)).outcome := by
  refine chains ?level ?nil ?call
  case level =>
    intro calls ih depth
    rw [stripped, dictAt, dictAt, outcomeBind, outcomeBind]
    simp only [ih]
  case nil =>
    intro depth d
    rw [strippedCalls]
  case call =>
    intro name args rest same ih depth d
    cases found : Attribute.ofMethod? name with
    | none =>
      rw [strippedUnknown found, dictOfCall, resolveSkip found skips, okBind]
      exact ih depth d
    | some a =>
      have value : (callValue settings depth a args).outcome = (callValue settings depth a
          (if a.isHierarchical then strippedArgs args else args)).outcome := by
        unfold callValue
        split
        · exact strippedValue fun s member => same s member (depth + 1)
        · rfl
      rw [strippedKnown found, dictOfCall, dictOfCall, resolveKnown found, okBind, okBind]
      simp only [value, ih]

structure Shortened (same : Prop) (x y : String) : Prop where
  equal : same → x = y
  shorter : ¬ same → y.length < x.length

theorem shortenedSame {p : Prop} (holds : p) (x : String) : Shortened p x x :=
  ⟨fun _ => rfl, fun other => absurd holds other⟩

theorem shortenedLength {p : Prop} {x y : String} (h : Shortened p x y) :
    y.length ≤ x.length := by
  by_cases same : p
  · exact Nat.le_of_eq (congrArg String.length (h.equal same).symm)
  · exact Nat.le_of_lt (h.shorter same)

theorem shortenedIff {p : Prop} {x y : String} (h : Shortened p x y) : x = y ↔ p := by
  refine ⟨fun same => ?_, h.equal⟩
  by_cases known : p
  · exact known
  · have := h.shorter known
    rw [same] at this
    exact absurd this (Nat.lt_irrefl _)

theorem shortenedAppend {p q : Prop} {a b x y : String} (first : Shortened p a b)
    (second : Shortened q x y) : Shortened (p ∧ q) (a ++ x) (b ++ y) where
  equal same := by rw [first.equal same.1, second.equal same.2]
  shorter other := by
    have low := shortenedLength first
    have high := shortenedLength second
    rw [String.length_append, String.length_append]
    by_cases same : p
    · have := second.shorter fun q => other ⟨same, q⟩
      omega
    · have := first.shorter same
      omega

theorem textOfMany (x y : Arg) (more : List Arg) :
    (xpathOfNested settings depth a (x :: y :: more)).outcome =
      .error (.conversion (.oneSelectorExpected a (more.length + 2))) := by
  cases x <;> rfl

def Matches (settings : Settings) (depth : Nat) (s : Selector) : Prop :=
  Alike (Shortened s.KeepsParents) (xpathFrom settings depth s).outcome
    (xpathFrom settings depth s.stripped).outcome

theorem bareStripped (bare : s.isBare = true) : s.stripped.isBare = true := by
  obtain ⟨calls⟩ := s
  match calls with
  | [] => rfl
  | [.mk name args] =>
    have parent : name = Attribute.fromParent.method := of_decide_eq_true bare
    subst parent
    rw [stripped, strippedKnown (Attribute.ofMethodOfMethod _)]
    rfl
  | _ :: _ :: _ => cases bare

theorem segmentShortened (hierarchical : a.isHierarchical = true) {bare left : Bool}
    (keeps : bare = true → left = true) :
    Alike (Shortened (a = .fromParent → left = true → bare = true)) (XPath.segment a bare)
      (XPath.segment a left) := by
  rcases Attribute.hierarchicalIs hierarchical with rfl | rfl | rfl
  · exact .ok (shortenedSame (by simp) _)
  · cases bare with
    | true =>
      rw [keeps rfl]
      exact .ok (shortenedSame (by simp) _)
    | false =>
      cases left with
      | false => exact .ok (shortenedSame (by simp) _)
      -- only here do the two texts differ: one goes on to any element of the parent
      | true => exact .ok ⟨fun same => absurd (same rfl rfl) (by decide), fun _ => by decide⟩
  · exact .ok (shortenedSame (by simp) _)

theorem nestedMatches (hierarchical : a.isHierarchical = true)
    (same : ∀ s, .nested s ∈ args → Matches settings depth s) :
    Alike (Shortened (KeepsParentsOf a args)) (xpathOfNested settings depth a args).outcome
      (xpathOfNested settings depth a (strippedArgs args)).outcome := by
  match args with
  | [] => exact .error _
  | [.nested s] =>
    simp only [strippedArgs, strippedArg, xpathOfSelector, outcomeBind, outcomeExcept, outcomePure,
      KeepsParentsOf]
    apply alikeBind (same s (by simp))
    intro x y inner
    apply alikeBind (segmentShortened hierarchical (bareStripped (s := s)))
    intro before left segment
    exact .ok (shortenedAppend segment inner)
  | [.str _] | [.int _] | [.bool _] | [.ident _] => exact .error _
  | x :: y :: more =>
    rw [strippedArgs, strippedArgs, textOfMany, textOfMany, strippedLength]
    exact .error _

theorem callMatches
    (same : ∀ s, .nested s ∈ args → Matches settings (depth + 1) s) :
    Alike (Shortened (a.isHierarchical = true → KeepsParentsOf a args))
      (callText settings depth a args).outcome
      (callText settings depth a
        (if a.isHierarchical then strippedArgs args else args)).outcome := by
  unfold callText
  split
  · rename_i hierarchical
    apply alikeMono (nestedMatches hierarchical same)
    intro x y text
    exact ⟨fun keeps => text.equal (keeps hierarchical),
      fun loses => text.shorter fun keeps => loses fun _ => keeps⟩
  · rename_i plain
    cases (Noted.ofExcept _).outcome with
    | error fault => exact .error fault
    | ok text => exact .ok (shortenedSame (fun hierarchical => absurd hierarchical plain) text)

theorem strippedText (skips : settings.unknownMethods = .skip) :
    (∀ (s : Selector) (depth : Nat), Matches settings depth s) ∧
    ∀ (calls : List Call) (depth : Nat),
      Alike (Shortened (KeepsParentsIn calls)) (xpathOfCalls settings depth calls).outcome
        (xpathOfCalls settings depth (strippedCalls calls)).outcome := by
  refine chains ?level ?nil ?call
  case level =>
    intro calls ih depth
    rw [Matches, stripped, xpathFrom, xpathFrom, outcomeBind, outcomeBind, KeepsParents]
    cases (Noted.ofExcept (settings.checkDepth depth)).outcome with
    | error fault => exact .error fault
    | ok u => exact ih depth
  case nil =>
    intro depth
    rw [strippedCalls, xpathOfCalls]
    exact .ok (shortenedSame trivial "")
  case call =>
    intro name args rest same ih depth
    cases found : Attribute.ofMethod? name with
    | none =>
      rw [KeepsParentsIn, found, strippedUnknown found, xpathOfCall, resolveSkip found skips,
        okBind]
      simp only [true_and]
      exact ih depth
    | some a =>
      rw [KeepsParentsIn, found, strippedKnown found, xpathOfCall, xpathOfCall,
        resolveKnown found, okBind, okBind]
      apply alikeBind (callMatches fun s member => same s member (depth + 1))
      intro x y here
      apply alikeBind (ih depth)
      intro more left others
      exact .ok (shortenedAppend here others)

/-- Passing over unknown methods gives the dictionary of the selector without their calls, or its
failure. It gives the XPath of that selector exactly if every parent stays what it is. -/
theorem skippedOrStripped (skips : settings.unknownMethods = .skip) (s : Selector)
    (base : String) :
    (s.dict settings).outcome = (s.stripped.dict settings).outcome ∧
      Alike (fun x y => x = y ↔ s.KeepsParents) (s.xpath settings base).outcome
        (s.stripped.xpath settings base).outcome := by
  refine ⟨(strippedDict skips).1 s 1, ?_⟩
  rw [xpath, xpath, outcomeBind, outcomeBind]
  apply alikeBind ((strippedText skips).1 s 1)
  intro x y text
  have whole := shortenedAppend (shortenedSame trivial base) text
  exact .ok ((shortenedIff whole).trans (iff_of_eq (true_and _)))

theorem unknownAmongOthersSkipped :
    let s : Selector := .mk [
      .mk "bogus" [.str "x"],
      .mk "text" [.ident "A"],
      .mk "fromParent" [.nested (.mk [
        .mk "bogus" [.nested (.mk [.mk "fromParent" []])],
        .mk "childSelector" [.nested (.mk [.mk "other" []])]])]]
    Settings.standard.unknownMethods = .skip ∧ s.KeepsParents ∧
      s.stripped.names = ["text", "fromParent", "childSelector"] ∧
      (s.dict .standard).outcome = (s.stripped.dict .standard).outcome ∧
      Alike (fun x y => x = y ↔ s.KeepsParents) (s.xpath .standard "//*").outcome
        (s.stripped.xpath .standard "//*").outcome := by
  intro s
  have widened : s.stripped = .mk [
      .mk "text" [.ident "A"],
      .mk "fromParent" [.nested (.mk [.mk "childSelector" [.nested (.mk [])]])]] := by rfl
  have inside : KeepsParents (.mk [
      .mk "bogus" [.nested (.mk [.mk "fromParent" []])],
      .mk "childSelector" [.nested (.mk [.mk "other" []])]]) :=
    ⟨trivial, ⟨fun _ => ⟨nofun, ⟨trivial, trivial⟩⟩, trivial⟩⟩
  have keeps : s.KeepsParents :=
    ⟨trivial, ⟨nofun, ⟨fun _ => ⟨fun _ bare => bare, inside⟩, trivial⟩⟩⟩
  exact ⟨rfl, keeps, by rw [widened]; rfl, skippedOrStripped rfl s "//*"⟩

theorem unknownParentWidened :
    let s : Selector := .mk [.mk "fromParent" [.nested (.mk [.mk "bogus" []])]]
    Settings.standard.unknownMethods = .skip ∧
      (s.xpath .standard "//*").outcome = .ok "//*/..//*" ∧
      (s.stripped.xpath .standard "//*").outcome = .ok "//*/.." ∧
      (s.xpath .standard "//*").outcome ≠ (s.stripped.xpath .standard "//*").outcome := by
  intro s
  have written : (s.xpath .standard "//*").outcome = .ok "//*/..//*" := by rfl
  have left : (s.stripped.xpath .standard "//*").outcome = .ok "//*/.." := by rfl
  refine ⟨rfl, written, left, ?_⟩
  rw [written, left]
  simp

end ElementLocator.Selector
