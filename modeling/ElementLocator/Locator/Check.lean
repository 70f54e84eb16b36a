import ElementLocator.Dict.Check
import ElementLocator.Fault
import ElementLocator.Selector.Check
import ElementLocator.XPath.Check
/-! Checking locators of any format, alone and in batches. -/
namespace ElementLocator

namespace Locator

def problems : Locator → List Problem
  | .uiSelector s => Selector.problems s
  | .xpath s => XPath.problems s
  | .dict v => Dict.problems v

def problemsAs (format : Format) (v : Json.Value) : List Problem :=
  match ofFormat? format v with
  | some l => l.problems
  | none => [.notString format]

end Locator

def accept (format : Format) : List Problem → Except Fault Unit
  | [] => .ok ()
  | found => .error (.invalid format found)

structure Rejected where
  index : Nat
  format : Format
  problems : List Problem

def rejectedFrom (index : Nat) : List Locator → List Rejected
  | [] => []
  | l :: rest =>
      match l.problems with
      | [] => rejectedFrom (index + 1) rest
      | found => ⟨index, l.format, found⟩ :: rejectedFrom (index + 1) rest

structure Summary where
  total : Nat
  rejected : List Rejected

def Summary.invalid (s : Summary) : Nat := s.rejected.length

def Summary.valid (s : Summary) : Nat := s.total - s.invalid

def Summary.ofBatch (ls : List Locator) : Summary := ⟨ls.length, rejectedFrom 0 ls⟩

end ElementLocator
