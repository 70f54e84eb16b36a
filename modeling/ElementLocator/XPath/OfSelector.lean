import ElementLocator.Attribute.Value
import ElementLocator.Noted
import ElementLocator.XPath.Segment
/-! The XPath of a selector: a predicate for every call with a plain value, and a segment for every
nested selector. -/
namespace ElementLocator.Selector

mutual
def xpathFrom (settings : Settings) (depth : Nat) : Selector → Noted String
  | .mk calls => do
      Noted.ofExcept (settings.checkDepth depth)
      xpathOfCalls settings depth calls

def xpathOfCalls (settings : Settings) (depth : Nat) : List Call → Noted String
  | [] => pure ""
  | .mk name args :: rest => do
      let here ← match ← settings.resolve name with
        | none => pure ""
        | some a =>
            if a.isHierarchical then xpathOfNested settings (depth + 1) a args
            else Noted.ofExcept do
              let v ← a.valueOfArguments args
              a.predicate v
      let more ← xpathOfCalls settings depth rest
      pure (here ++ more)

def xpathOfNested (settings : Settings) (depth : Nat) (a : Attribute) : List Arg → Noted String
  | [.nested s] =>
      if a = .fromParent then xpathOfParent settings depth s
      else do
        let inner ← xpathFrom settings depth s
        let segment ← Noted.ofExcept (XPath.segment a s.isBare)
        pure (segment ++ inner)
  | [arg] => Noted.fail (.conversion (.selectorExpected a arg))
  | args => Noted.fail (.conversion (.oneSelectorExpected a args.length))

/-- Parents with nothing but a further parent in them follow each other directly. The method of the
further parent is not looked up. -/
def xpathOfParent (settings : Settings) (depth : Nat) : Selector → Noted String
  | .mk calls => do
      Noted.ofExcept (settings.checkDepth depth)
      match calls with
      | [] => pure "/.."
      | .mk name args :: rest =>
          if rest = [] ∧ name = Attribute.fromParent.method then do
            let further ← xpathOfNested settings (depth + 1) .fromParent args
            pure ("/.." ++ further)
          else do
            let inner ← xpathOfCalls settings depth (.mk name args :: rest)
            pure ("/..//*" ++ inner)
end

def xpath (settings : Settings) (base : String) (s : Selector) : Noted String := do
  let more ← xpathFrom settings 1 s
  pure (base ++ more)

end ElementLocator.Selector
