import ElementLocator.Attribute.Value
import ElementLocator.Settings
/-! The selector with the content of a dictionary: one call with one argument for every entry. -/
namespace ElementLocator.Dict

mutual
def selectorAt (settings : Settings) (depth : Nat) : Dict → Except Fault Selector
  | .mk entries => do
      settings.checkDepth depth
      let calls ← callsOfEntries settings depth entries
      .ok (.mk calls)

def callsOfEntries (settings : Settings) (depth : Nat) :
    List (Attribute × Value) → Except Fault (List Call)
  | [] => .ok []
  | (a, .nested d) :: rest => do
      let arg ← if a.isHierarchical then (selectorAt settings (depth + 1) d).map .nested
        else a.argument (.nested d)
      let more ← callsOfEntries settings depth rest
      .ok (.mk a.method [arg] :: more)
  | (a, v) :: rest => do
      let arg ← a.argument v
      let more ← callsOfEntries settings depth rest
      .ok (.mk a.method [arg] :: more)
end

def selector (settings : Settings) (d : Dict) : Except Fault Selector := selectorAt settings 1 d

end ElementLocator.Dict
