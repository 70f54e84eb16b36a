import ElementLocator.Locator.Problem
import ElementLocator.Dict
/-! Checking a dictionary locator as JSON: its keys, the kinds of its values, and families of
which it holds more than one attribute, at every level down to a limit. -/
namespace ElementLocator.Dict

def maxNesting : Nat := Selector.maxNesting

def fits : ValueKind → Json.Value → Bool
  | .string, v => v.str?.isSome
  | .boolean, v => v.bool?.isSome
  | .numeric, v => v.count?.isSome
  | .hierarchical, .obj _ => true
  | .hierarchical, _ => false

def described : Json.Value → String
  | .int n => (Json.Value.int n).text
  | .float x => (Json.Value.float x).text
  | v => v.kindName

def familyKeys (family : Family) (keys : List String) : List String :=
  keys.filter fun key => (Attribute.ofKey? key).bind Attribute.family = some family

def conflict (family : Family) (path : String) (keys : List String) : List Problem :=
  let found := familyKeys family keys
  if 1 < found.length then [.conflict family (found.map (path ++ ·))] else []

def conflicts (path : String) (keys : List String) : List Problem :=
  conflict .text path keys ++ conflict .description path keys

mutual
def problemsAt (path : String) (depth : Nat) : Json.Value → List Problem
  | .obj fields =>
      if maxNesting < depth then [.tooNested maxNesting]
      else problemsOfFields path depth fields ++ conflicts path (fields.map Prod.fst)
  | _ => []

def problemsOfFields (path : String) (depth : Nat) :
    List (String × Json.Value) → List Problem
  | [] => []
  | (key, v) :: rest =>
      let here := match Attribute.ofKey? key with
        | none => [.unknownAttribute (path ++ key)]
        | some a =>
            if fits a.kind v then problemsAt (path ++ key ++ ".") (depth + 1) v
            else [.wrongKind (path ++ key) a.kind (described v)]
      here ++ problemsOfFields path depth rest
end

def problems : Json.Value → List Problem
  | .obj [] => [.emptyDict]
  | .obj fields => problemsAt "" 1 (.obj fields)
  | _ => [.notDict]

end ElementLocator.Dict
