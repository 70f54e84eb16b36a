import ElementLocator.Proofs.Dict.Insertion
import ElementLocator.Proofs.Dict.Rendering
import ElementLocator.Proofs.Selector.Calls
import ElementLocator.Proofs.Selector.Levels
/-! Rendering a selector as XPath, and rendering the dictionary of its content. -/
namespace ElementLocator.Selector
open ElementLocator.XPath

variable {settings : Settings} {depth : Nat} {s : Selector} {calls rest : List Call}
  {args : List Arg} {es before : List (Attribute × Value)} {a : Attribute} {v : Value}
  {name : String} {arg : Arg}

def NoRepeats (calls : List Call) : Prop := (calls.map Call.name).Nodup

instance (calls : List Call) : Decidable (NoRepeats calls) :=
  inferInstanceAs (Decidable (List.Nodup _))

def Resolves (settings : Settings) (name : String) : Prop :=
  (Attribute.ofMethod? name).isSome = true ∨ settings.unknownMethods = .fail

theorem bareSingle (takes : a.takes v = true) :
    (Dict.mk [(a, v)]).isBare = decide (a.method = Attribute.fromParent.method) := by
  by_cases parent : a = .fromParent
  · subst parent
    cases v with
    | nested d => rfl
    | _ => cases takes
  · have other : a.method ≠ Attribute.fromParent.method := fun same =>
      parent (methodInjective same)
    rw [decide_eq_false other]
    cases a <;> first | rfl | exact absurd rfl parent

theorem bareAlike (typed : Dict.Typed es)
    (names : es.map (fun e => e.1.method) = calls.map Call.name) :
    (Dict.mk es).isBare = (Selector.mk calls).isBare := by
  cases es with
  | nil =>
    rw [List.map_eq_nil_iff.mp names.symm]
    rfl
  | cons e rest =>
    obtain ⟨a, v⟩ := e
    cases calls with
    | nil => cases names
    | cons c others =>
      obtain ⟨same, more⟩ := List.cons.inj names
      have method : a.method = c.name := same
      cases rest with
      | nil =>
        rw [List.map_eq_nil_iff.mp more.symm, bareSingle (typed (a, v) (by simp)), method]
        rfl
      | cons f rest =>
        cases others with
        | nil => cases more
        | cons d others => exact Dict.bareLong (a, v) f

theorem argumentPlain (h : a.valueOfArgument arg = .ok v) : Plain (a, v) := by
  unfold Attribute.valueOfArgument at h
  split at h
  · rename_i kind
    cases h
    exact plainStr.mpr kind
  · rename_i kind
    cases h
    exact plainStr.mpr kind
  · rename_i kind
    cases h
    exact plainBool.mpr kind
  · rename_i kind
    simp only at h
    split at h
    · cases h
      exact plainInt.mpr kind
    · cases h
  · cases h
  · cases h

theorem argumentsPlain (h : a.valueOfArguments args = .ok v) : Plain (a, v) := by
  unfold Attribute.valueOfArguments at h
  split at h
  · split at h
    · rename_i kind
      cases h
      exact plainBool.mpr kind
    · cases h
  · exact argumentPlain h
  · cases h

def Renders (settings : Settings) (depth : Nat) (a : Attribute) (v : Value) (text : String) :
    Prop :=
  a.takes v = true ∧ ∀ rest, Dict.xpathOfEntries settings depth ((a, v) :: rest) = (do
    let more ← Dict.xpathOfEntries settings depth rest
    .ok (text ++ more))

theorem plainAlike (args : List Arg) :
    Alike (Renders settings depth a) (a.valueOfArguments args) (do
      let v ← a.valueOfArguments args
      a.predicate v) := by
  cases found : a.valueOfArguments args with
  | error fault => exact .error fault
  | ok v =>
    have plain := argumentsPlain found
    rw [okBind, predicateOfPlain plain]
    refine .ok ⟨plain.1, fun rest => ?_⟩
    rw [Dict.xpathPlain (plainIff.mp plain).2, predicateOfPlain plain, okBind]

def Same (settings : Settings) (depth : Nat) (s : Selector) : Prop :=
  Alike (fun d x => d.isBare = s.isBare ∧ d.xpathFrom settings depth = .ok x)
    (dictAt settings depth s).outcome (s.xpathFrom settings depth).outcome

theorem nestedAlike (hierarchical : a.isHierarchical = true)
    (same : ∀ s, .nested s ∈ args → Same settings (depth + 1) s) :
    Alike (Renders settings depth a) (valueOfNested settings (depth + 1) a args).outcome
      (xpathOfNested settings (depth + 1) a args).outcome := by
  rcases nestedOrRefused a args with ⟨s, rfl⟩ | ⟨fault, refused⟩
  · rw [valueOfNested, xpathOfSelector, outcomeBind, outcomeBind]
    apply alikeBind (same s (by simp))
    rintro d x ⟨bare, rendered⟩
    simp only [outcomeBind, outcomeExcept, segmentJoint hierarchical, okBind, outcomePure]
    refine .ok ⟨hierarchical, fun rest => ?_⟩
    rw [Dict.xpathOfEntries, rendered, okBind, bare, segmentJoint hierarchical, okBind]
  · rw [(refused settings (depth + 1)).1, (refused settings (depth + 1)).2]
    exact .error fault

theorem callAlike (same : ∀ s, .nested s ∈ args → Same settings (depth + 1) s) :
    Alike (Renders settings depth a) (callValue settings depth a args).outcome
      (callText settings depth a args).outcome := by
  unfold callValue callText
  split
  · exact nestedAlike ‹_› same
  · exact plainAlike args

def SameAfter (settings : Settings) (depth : Nat) (before : List (Attribute × Value))
    (calls : List Call) : Prop :=
  Alike (fun d x => ∃ es, d = .mk (before ++ es) ∧ Dict.Typed es ∧
      es.map (fun e => e.1.method) = calls.map Call.name ∧
      Dict.xpathOfEntries settings depth es = .ok x)
    (dictOfCalls settings depth (.mk before) calls).outcome
    (xpathOfCalls settings depth calls).outcome

theorem sameOfLevel (same : ∀ depth, SameAfter settings depth [] calls) (depth : Nat) :
    Same settings depth (.mk calls) := by
  unfold Same
  rw [dictAt, xpathFrom, outcomeBind, outcomeBind, outcomeExcept]
  cases checked : settings.checkDepth depth with
  | error fault => exact .error fault
  | ok u =>
    rw [okBind, okBind]
    apply alikeMono (same depth)
    rintro d x ⟨es, rfl, typed, sameNames, rendered⟩
    rw [List.nil_append]
    exact ⟨bareAlike typed sameNames, by rw [Dict.xpathFrom, checked, okBind, rendered]⟩

theorem sameAfterNone (before : List (Attribute × Value)) : SameAfter settings depth before [] := by
  unfold SameAfter
  rw [dictOfCalls, xpathOfCalls]
  exact .ok ⟨[], by simp, by simp [Dict.Typed], rfl, by rw [Dict.xpathOfEntries]⟩

theorem sameAfterUnknown (found : Attribute.ofMethod? name = none)
    (fails : settings.unknownMethods = .fail) :
    SameAfter settings depth before (.mk name args :: rest) := by
  unfold SameAfter
  rw [dictOfCall, xpathOfCall, resolveFail found fails]
  exact .error _

theorem sameAfterKnown (found : Attribute.ofMethod? name = some a) (fresh : a ∉ before.map Prod.fst)
    (inner : ∀ s, .nested s ∈ args → Same settings (depth + 1) s)
    (more : ∀ v, SameAfter settings depth (before ++ [(a, v)]) rest) :
    SameAfter settings depth before (.mk name args :: rest) := by
  unfold SameAfter
  rw [dictOfCall, xpathOfCall, resolveKnown found, okBind, okBind]
  apply alikeBind (callAlike inner)
  rintro v text ⟨takes, renders⟩
  rw [Dict.insertFresh fresh]
  apply alikeThen (more v)
  rintro d x ⟨es, rfl, typed, sameNames, rendered⟩
  refine ⟨text ++ x, rfl, (a, v) :: es, by simp, ?_, ?_, ?_⟩
  · intro e member
    rcases List.mem_cons.mp member with rfl | later
    · exact takes
    · exact typed e later
  · simp [sameNames, methodFound found, Call.name]
  · rw [renders, rendered, okBind]

theorem twoStages :
    (∀ s : Selector, s.Everywhere NoRepeats → (∀ name ∈ s.names, Resolves settings name) →
      ∀ depth, Same settings depth s) ∧
    ∀ calls : List Call, EverywhereCalls NoRepeats calls →
      (∀ name ∈ namesOfCalls calls, Resolves settings name) →
      ∀ (before : List (Attribute × Value)) (depth : Nat),
        (before.map (fun e => e.1.method) ++ calls.map Call.name).Nodup →
        SameAfter settings depth before calls := by
  refine chains ?level ?nil ?call
  case level =>
    intro calls ih everywhere resolves
    rw [Everywhere] at everywhere
    rw [names] at resolves
    exact sameOfLevel fun depth => ih everywhere.2 resolves [] depth everywhere.1
  case nil =>
    intro _ _ before depth _
    exact sameAfterNone before
  case call =>
    intro name args rest same ih everywhere resolves before depth distinct
    rw [EverywhereCalls, everywhereArgs] at everywhere
    rw [namesOfCalls] at resolves
    cases found : Attribute.ofMethod? name with
    | none =>
      rcases resolves name (by simp) with known | fails
      · rw [found] at known
        cases known
      · exact sameAfterUnknown found fails
    | some a =>
      have method := methodFound found
      apply sameAfterKnown found
      · intro member
        obtain ⟨e, there, rfl⟩ := List.mem_map.mp member
        exact (List.nodup_append.mp distinct).2.2 name
          (List.mem_map.mpr ⟨e, there, method⟩) name (by simp [Call.name]) rfl
      · intro s member
        exact same s member (everywhere.1 s member)
          (fun n named => resolves n (by simp [namesOfArg member n named])) (depth + 1)
      · intro v
        apply ih everywhere.2 fun n named => resolves n (by simp [named])
        have shape : before.map (fun e => e.1.method) ++ (Call.mk name args :: rest).map Call.name =
            (before ++ [(a, v)]).map (fun e => e.1.method) ++ rest.map Call.name := by
          simp [method, Call.name]
        rwa [shape] at distinct

theorem xpathOfSame (same : Same settings 1 s) : (s.xpath settings "//*").outcome = (do
    let d ← (s.dict settings).outcome
    d.xpath settings) := by
  have related := alikeMono same fun d x h => show d.xpath settings = .ok ("//*" ++ x) by
    rw [Dict.xpath, h.2, okBind]
  rw [xpath, dict, outcomeBind]
  exact (alikeResult related).symm

theorem resolvesAll (h : (∀ name ∈ s.names, (Attribute.ofMethod? name).isSome = true) ∨
    settings.unknownMethods = .fail) : ∀ name ∈ s.names, Resolves settings name := by
  intro name named
  rcases h with known | fails
  · exact Or.inl (known name named)
  · exact Or.inr fails

theorem xpathInTwoStages (noRepeats : s.Everywhere NoRepeats)
    (resolves : (∀ name ∈ s.names, (Attribute.ofMethod? name).isSome = true) ∨
      settings.unknownMethods = .fail) :
    (s.xpath settings "//*").outcome = (do
      let d ← (s.dict settings).outcome
      d.xpath settings) :=
  xpathOfSame (twoStages.1 s noRepeats (resolvesAll resolves) 1)

theorem brokenInTwoStages :
    let s : Selector := .mk [
      .mk "className" [.str "Button"],
      .mk "fromParent" [.nested (.mk [.mk "sibling" [.nested (.mk [])], .mk "index" [.int 2]])],
      .mk "checked" [.int 1]]
    s.Everywhere NoRepeats ∧
      (∀ name ∈ s.names, (Attribute.ofMethod? name).isSome = true) ∧
      (s.xpath .standard "//*").outcome = (do
        let d ← (s.dict .standard).outcome
        d.xpath .standard) := by
  intro s
  have inner : Everywhere NoRepeats
      (.mk [.mk "sibling" [.nested (.mk [])], .mk "index" [.int 2]]) :=
    ⟨by decide, ⟨⟨by decide, trivial⟩, trivial⟩, trivial, trivial⟩
  have noRepeats : s.Everywhere NoRepeats :=
    ⟨by decide, trivial, ⟨inner, trivial⟩, trivial, trivial⟩
  have known : ∀ name ∈ s.names, (Attribute.ofMethod? name).isSome = true := by decide
  exact ⟨noRepeats, known, xpathInTwoStages noRepeats (Or.inl known)⟩

end ElementLocator.Selector
