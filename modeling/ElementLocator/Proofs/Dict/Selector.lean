import ElementLocator.Dict.OfSelector
import ElementLocator.Proofs.Dict.Collecting
import ElementLocator.Proofs.Selector.Text
import ElementLocator.Selector.OfDict
/-! The selector of a dictionary: it is well formed, and it has the dictionary's content. -/
namespace ElementLocator

mutual
def Value.asArg : Value → Arg
  | .str s => .str s
  | .bool b => .bool b
  | .int n => .int (Int64.ofNat n.toNat)
  | .nested d => .nested d.asSelector

def Dict.asSelector : Dict → Selector
  | .mk es => .mk (Dict.callsOf es)

def Dict.callsOf : List (Attribute × Value) → List Call
  | [] => []
  | (a, v) :: rest => .mk a.method [v.asArg] :: Dict.callsOf rest
end

namespace Dict

variable {settings : Settings} {depth : Nat} {es : List (Attribute × Value)} {a : Attribute}
  {v : Value} {d : Dict}

theorem argumentOfPlain (plain : Plain (a, v)) : a.argument v = .ok v.asArg := by
  cases v with
  | str s => simp [Attribute.argument, plainStr.mp plain, Value.asArg]
  | bool b => simp [Attribute.argument, plainBool.mp plain, Value.asArg]
  | int n => simp [Attribute.argument, plainInt.mp plain, Value.asArg]
  | nested d => exact absurd plain plainNested

theorem callsPlain (flat : v.nested? = none) : callsOfEntries settings depth ((a, v) :: es) = (do
    let arg ← a.argument v
    let more ← callsOfEntries settings depth es
    .ok (.mk a.method [arg] :: more)) := by
  cases v with
  | nested d => cases flat
  | _ => simp only [callsOfEntries]

theorem selectorWritten :
    (∀ (d : Dict) (depth : Nat), d.Everywhere Typed → depth + d.depth ≤ settings.maxDepth + 1 →
      selectorAt settings depth d = .ok d.asSelector) ∧
    ∀ (es : List (Attribute × Value)) (depth : Nat), Typed es → EverywhereIn Typed es →
      depth + depthOfEntries es ≤ settings.maxDepth →
      callsOfEntries settings depth es = .ok (callsOf es) := by
  refine levels ?level ?nil ?plain ?nested
  case level =>
    intro es ih depth typed room
    rw [Everywhere] at typed
    rw [Dict.depth] at room
    rw [selectorAt, checkDepthRoom (by omega), okBind, ih depth typed.1 typed.2 (by omega), okBind,
      asSelector]
  case nil =>
    intro depth _ _ _
    rw [callsOfEntries, callsOf]
  case plain =>
    intro a v rest flat ih depth typed inner room
    rw [everywherePlain flat] at inner
    rw [depthPlain flat] at room
    have more := ih depth (fun e he => typed e (by simp [he])) inner room
    have written := argumentOfPlain (plainIff.mpr ⟨typed (a, v) (by simp), flat⟩)
    rw [callsPlain flat, written, okBind, more, okBind, callsOf]
  case nested =>
    intro a d rest inDict ih depth typed inner room
    rw [EverywhereIn] at inner
    rw [depthOfEntries] at room
    have below := inDict (depth + 1) inner.1 (by omega)
    have more := ih depth (fun e he => typed e (by simp [he])) inner.2 (by omega)
    have hierarchical : a.isHierarchical = true := typed (a, .nested d) (by simp)
    rw [callsOfEntries]
    simp only [if_pos hierarchical, below, Except.map, okBind, more, callsOf, Value.asArg]

theorem selectorOfTyped (d : Having Typed settings.maxDepth) :
    d.dict.selector settings = .ok d.dict.asSelector := by
  have room := d.room
  exact selectorWritten.1 d.dict 1 d.levels (by omega)

theorem intArgument (n : UInt32) : (Int64.ofNat n.toNat).toInt = (n.toNat : Int) := by
  have := n.toNat_lt
  exact Int64.toInt_ofNat_of_lt (by omega)

theorem argumentReadBack (plain : Plain (a, v)) : a.valueOfArguments [v.asArg] = .ok v := by
  rw [Attribute.valueOfArguments]
  cases v with
  | str s => simp [Attribute.valueOfArgument, plainStr.mp plain, Value.asArg]
  | bool b => simp [Attribute.valueOfArgument, plainBool.mp plain, Value.asArg]
  | int n =>
    have inRange : (n.toNat : Int) < 4294967296 := by
      have := n.toNat_lt
      omega
    simp [Attribute.valueOfArgument, plainInt.mp plain, Value.asArg, intArgument n, inRange]
  | nested d => exact absurd plain plainNested

theorem resolveMethod (a : Attribute) : (settings.resolve a.method).outcome = .ok (some a) := by
  rw [Settings.resolve, Attribute.ofMethodOfMethod]
  rfl

theorem selectorCollects :
    Collects settings (fun depth d => (Selector.dictAt settings depth d.asSelector).outcome)
      fun depth d es => (Selector.dictOfCalls settings depth d (callsOf es)).outcome where
  enter depth es := by
    rw [asSelector, Selector.dictAt, outcomeBind, outcomeExcept]
    rfl
  stop depth d := by
    rw [callsOf, Selector.dictOfCalls]
    rfl
  plain depth d a v es plain := by
    rw [callsOf, Selector.dictOfCalls, outcomeBind, resolveMethod, okBind]
    simp only [plain.2, argumentReadBack plain, outcomeBind, outcomeExcept, Bool.false_eq_true,
      if_false, okBind]
  nested depth d a inner es hierarchical below := by
    rw [callsOf, Value.asArg, Selector.dictOfCalls, outcomeBind, resolveMethod, okBind]
    simp only [hierarchical, outcomeBind, if_true, Selector.valueOfNested, below, okBind,
      outcomePure]

theorem selectorMeaning (d : Having Sound settings.maxDepth) :
    (d.dict.asSelector.dict settings).outcome = .ok d.dict :=
  collectedSound selectorCollects d

theorem methodIsIdentifier (a : Attribute) : Selector.IsIdentifier a.method := by
  cases a <;> exact ⟨_, _, rfl, by decide, List.all_eq_true.mp rfl, by decide⟩

theorem depthOfSelector :
    (∀ d : Dict, d.asSelector.depth = d.depth) ∧
    ∀ es : List (Attribute × Value), Selector.depthOfCalls (callsOf es) = depthOfEntries es := by
  refine levels ?level ?nil ?plain ?nested
  case level =>
    intro es ih
    rw [asSelector, Selector.depth, Dict.depth, ih]
  case nil => rw [callsOf, Selector.depthOfCalls, depthOfEntries]
  case plain =>
    intro a v rest flat ih
    have noNested : Selector.depthOfArgs [v.asArg] = 0 := by
      cases v with
      | nested d => cases flat
      | _ => simp [Value.asArg, Selector.depthOfArgs]
    rw [callsOf, Selector.depthOfCalls, noNested, ih, depthPlain flat, Nat.zero_max]
  case nested =>
    intro a d rest inDict ih
    rw [callsOf, Value.asArg, Selector.depthOfCalls, Selector.depthOfArgs, Selector.depthOfArgs,
      inDict, ih, depthOfEntries, Nat.max_zero]

theorem selectorEverywhere {P : List Call → Prop} {Q : List (Attribute × Value) → Prop}
    (calls : ∀ es, Q es → P (callsOf es)) :
    (∀ d : Dict, d.Everywhere Q → d.asSelector.Everywhere P) ∧
    ∀ es : List (Attribute × Value), EverywhereIn Q es →
      Selector.EverywhereCalls P (callsOf es) := by
  refine levels ?level ?nil ?plain ?nested
  case level =>
    intro es ih everywhere
    rw [Everywhere] at everywhere
    rw [asSelector, Selector.Everywhere]
    exact ⟨calls es everywhere.1, ih everywhere.2⟩
  case nil =>
    intro _
    rw [callsOf, Selector.EverywhereCalls]
    trivial
  case plain =>
    intro a v rest flat ih everywhere
    rw [callsOf, Selector.EverywhereCalls, Selector.everywhereArgs]
    refine ⟨?_, ih ((everywherePlain flat).mp everywhere)⟩
    intro s member
    cases v with
    | nested d => cases flat
    | _ => simp [Value.asArg] at member
  case nested =>
    intro a d rest inDict ih everywhere
    rw [EverywhereIn] at everywhere
    rw [callsOf, Value.asArg, Selector.EverywhereCalls, Selector.everywhereArgs]
    refine ⟨?_, ih everywhere.2⟩
    intro s member
    rw [Arg.nested.inj (List.mem_singleton.mp member)]
    exact inDict everywhere.1

theorem argIsWritten (v : Value) : Selector.WrittenArg v.asArg := by
  cases v with
  | int n =>
    rw [Value.asArg, Selector.WrittenArg, intArgument]
    omega
  | _ => trivial

theorem callsWritten (es : List (Attribute × Value)) : Selector.Written (callsOf es) := by
  induction es with
  | nil => simp [callsOf, Selector.Written]
  | cons e rest ih =>
    obtain ⟨a, v⟩ := e
    intro c member
    rw [callsOf] at member
    rcases List.mem_cons.mp member with rfl | later
    · refine ⟨methodIsIdentifier a, by simp [Call.args], ?_⟩
      intro arg is
      rw [List.mem_singleton.mp is]
      exact argIsWritten v
    · exact ih c later

theorem selectorIsWritten (d : Dict) : d.asSelector.Everywhere Selector.Written :=
  (selectorEverywhere (Q := fun _ => True) fun es _ => callsWritten es).1 d
    (everywhereAll (fun _ => trivial) d)

theorem selectorWellFormed (room : d.depth ≤ Selector.maxNesting + 1) :
    Selector.WellFormed d.asSelector where
  written := selectorIsWritten d
  nesting := by
    rw [depthOfSelector.1]
    exact room

end Dict

end ElementLocator
