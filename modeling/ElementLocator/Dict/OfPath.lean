import ElementLocator.XPath.Entry
import ElementLocator.XPath.Path
import ElementLocator.Settings
/-! The dictionary of a path. The first element step becomes the dictionary itself, and what
follows it nests in it: under fromParent after a parent step, under sibling if the next step goes
to a following sibling, else under childSelector. -/
namespace ElementLocator.XPath

def entriesOf (d : Dict) : List Expr → Except Fault Dict
  | [] => .ok d
  | p :: rest => do
      let (a, v) ← entryOf p
      entriesOf (d.insert a v) rest

def ofElement (e : Element) : Except Fault Dict := do
  let d ← match e.test with
    | .any | .kind .node => .ok Dict.empty
    | .name s => .ok (Dict.empty.insert .className (.str s))
    | .kind k => .error (.conversion (.unsupportedNodeTest k))
  entriesOf d e.predicates

/- Within a run of parent steps only its end is checked, which is why a failure names the
depth below the whole run. -/
def dictOf (settings : Settings) (inRun : Bool) (depth : Nat) :
    List PathStep → Except Fault Dict
  | [] => do
      settings.checkDepth depth
      .ok .empty
  | .parent :: rest => do
      if !inRun then settings.checkDepth depth
      let inner ← dictOf settings true (depth + 1) rest
      .ok (Dict.empty.insert .fromParent (.nested inner))
  | .element e :: rest => do
      settings.checkDepth depth
      let d ← ofElement e
      match rest with
      | [] => .ok d
      | .parent :: further => do
          let inner ← dictOf settings true (depth + 1) further
          .ok (d.insert .fromParent (.nested inner))
      | .element next :: further => do
          let inner ← dictOf settings false (depth + 1) (.element next :: further)
          let a := if next.axis = some .followingSibling then .sibling else .childSelector
          .ok (d.insert a (.nested inner))

def Expr.dict (settings : Settings) (e : Expr) : Except Fault Dict := do
  let steps ← pathSteps e
  dictOf settings false 1 steps

end ElementLocator.XPath
