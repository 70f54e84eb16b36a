import ElementLocator.Fault
/-! What joins the XPath of a nested locator to that of the locator around it. A nested locator with
nothing but a further parent in it, or with nothing at all, is a bare parent step. -/
namespace ElementLocator.XPath

def segment? (a : Attribute) (bare : Bool) : Option String :=
  match a with
  | .childSelector => some "/*"
  | .fromParent => some (if bare then "/.." else "/..//*")
  | .sibling => some "/following-sibling::*"
  | _ => none

def segment (a : Attribute) (bare : Bool) : Except Fault String :=
  match segment? a bare with
  | some s => .ok s
  | none => .error (.conversion (.notHierarchical a))

end ElementLocator.XPath

namespace ElementLocator

def Selector.isBare : Selector → Bool
  | .mk [] => true
  | .mk [call] => call.name = Attribute.fromParent.method
  | .mk _ => false

def Dict.isBare : Dict → Bool
  | .mk [] => true
  | .mk [(.fromParent, .nested _)] => true
  | .mk _ => false

end ElementLocator
