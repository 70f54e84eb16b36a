import ElementLocator.Attribute.Value
import ElementLocator.Noted
/-! The dictionary with the content of a selector. Of several calls of one method the last one
counts, at the place of the first. -/
namespace ElementLocator.Selector

mutual
def dictAt (settings : Settings) (depth : Nat) : Selector → Noted Dict
  | .mk calls => do
      Noted.ofExcept (settings.checkDepth depth)
      dictOfCalls settings depth .empty calls

def dictOfCalls (settings : Settings) (depth : Nat) (d : Dict) : List Call → Noted Dict
  | [] => pure d
  | .mk name args :: rest => do
      match ← settings.resolve name with
      | none => dictOfCalls settings depth d rest
      | some a =>
          let v ← if a.isHierarchical then valueOfNested settings (depth + 1) a args
            else Noted.ofExcept (a.valueOfArguments args)
          dictOfCalls settings depth (d.insert a v) rest

def valueOfNested (settings : Settings) (depth : Nat) (a : Attribute) : List Arg → Noted Value
  | [.nested s] => do
      let d ← dictAt settings depth s
      pure (.nested d)
  | [arg] => Noted.fail (.conversion (.selectorExpected a arg))
  | args => Noted.fail (.conversion (.oneSelectorExpected a args.length))
end

def dict (settings : Settings) (s : Selector) : Noted Dict := dictAt settings 1 s

end ElementLocator.Selector
