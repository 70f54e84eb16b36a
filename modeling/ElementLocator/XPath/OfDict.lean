import ElementLocator.Attribute.Value
import ElementLocator.Settings
import ElementLocator.XPath.Segment
/-! The XPath of a dictionary: a predicate for every plain value, and a segment for every nested
dictionary, in the order of the entries. -/
namespace ElementLocator.Dict

mutual
def xpathFrom (settings : Settings) (depth : Nat) : Dict → Except Fault String
  | .mk entries => do
      settings.checkDepth depth
      xpathOfEntries settings depth entries

def xpathOfEntries (settings : Settings) (depth : Nat) :
    List (Attribute × Value) → Except Fault String
  | [] => .ok ""
  | (a, .nested d) :: rest => do
      let inner ← xpathFrom settings (depth + 1) d
      let segment ← XPath.segment a d.isBare
      let more ← xpathOfEntries settings depth rest
      .ok (segment ++ inner ++ more)
  | (a, v) :: rest => do
      let here ← a.predicate v
      let more ← xpathOfEntries settings depth rest
      .ok (here ++ more)
end

def xpath (settings : Settings) (d : Dict) : Except Fault String := do
  let more ← xpathFrom settings 1 d
  .ok ("//*" ++ more)

end ElementLocator.Dict
