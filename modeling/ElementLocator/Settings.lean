import ElementLocator.Fault
import ElementLocator.Json.Grammar
/-! Settings of conversions and how they are read from JSON text. Any of them may be left out and
then has its default; fields of other names are passed over, whatever they hold. -/
namespace ElementLocator
open ElementLocator.Json (Tree)
open ElementLocator.Decimal (value)

inductive UnknownMethods where
  | skip
  | fail
  deriving DecidableEq, Repr

def UnknownMethods.name : UnknownMethods → String
  | .skip => "skip"
  | .fail => "fail"

def UnknownMethods.ofName? (name : String) : Option UnknownMethods :=
  if name = "skip" then some .skip else if name = "fail" then some .fail else none

structure Settings where
  maxDepth : Nat
  validateInput : Bool
  unknownMethods : UnknownMethods
  deriving DecidableEq, Repr

namespace Settings

def standard : Settings := ⟨64, true, .skip⟩

def checkDepth (settings : Settings) (depth : Nat) : Except Fault Unit :=
  if settings.maxDepth < depth then .error (.conversion (.tooDeep depth settings.maxDepth))
  else .ok ()

def depthOf? : Tree → Option Nat
  | .number n =>
      if n.negative = false ∧ n.fraction = [] ∧ n.exponent = none ∧ value n.whole < UInt64.size then
        some (value n.whole)
      else none
  | _ => none

def boolOf? : Tree → Option Bool
  | .bool b => some b
  | _ => none

/-- A choice is given by its name, or by its name as the key of a null. -/
def choiceOf? : Tree → Option UnknownMethods
  | .string (some name) => UnknownMethods.ofName? name
  | .object [(some name, .null)] => UnknownMethods.ofName? name
  | _ => none

structure Partial where
  maxDepth : Option Nat
  validateInput : Option Bool
  unknownMethods : Option UnknownMethods

def Partial.complete (p : Partial) : Settings where
  maxDepth := p.maxDepth.getD standard.maxDepth
  validateInput := p.validateInput.getD standard.validateInput
  unknownMethods := p.unknownMethods.getD standard.unknownMethods

def ofFields? (p : Partial) : List (Option String × Tree) → Option Partial
  | [] => some p
  | (none, _) :: _ => none
  | (some name, t) :: rest =>
      if name = "max_depth" then
        match p.maxDepth, depthOf? t with
        | none, some n => ofFields? { p with maxDepth := some n } rest
        | _, _ => none
      else if name = "validate_input" then
        match p.validateInput, boolOf? t with
        | none, some b => ofFields? { p with validateInput := some b } rest
        | _, _ => none
      else if name = "unknown_methods" then
        match p.unknownMethods, choiceOf? t with
        | none, some choice => ofFields? { p with unknownMethods := some choice } rest
        | _, _ => none
      else ofFields? p rest

def ofItems? : List Tree → Option Partial
  | [] => some ⟨none, none, none⟩
  | [d] => do some ⟨← depthOf? d, none, none⟩
  | [d, v] => do some ⟨← depthOf? d, ← boolOf? v, none⟩
  | [d, v, u] => do some ⟨← depthOf? d, ← boolOf? v, ← choiceOf? u⟩
  | _ => none

def ofTree? : Tree → Option Settings
  | .object fields => (ofFields? ⟨none, none, none⟩ fields).map Partial.complete
  | .array items => (ofItems? items).map Partial.complete
  | _ => none

def read? (text : String) : Option Settings := do
  let tree ← Json.tree? text
  ofTree? tree

end Settings

end ElementLocator
