import ElementLocator.Settings
/-! Dictionary locators as JSON objects, written and read. Reading types each value by its key and
stops at the first thing that is wrong. -/
namespace ElementLocator.Dict

mutual
def json : Dict → Json.Value
  | .mk entries => .obj (jsonFields entries)

def jsonFields : List (Attribute × Value) → List (String × Json.Value)
  | [] => []
  | (a, .str s) :: rest => (a.key, .str s) :: jsonFields rest
  | (a, .bool b) :: rest => (a.key, .bool b) :: jsonFields rest
  | (a, .int n) :: rest => (a.key, .int n.toNat) :: jsonFields rest
  | (a, .nested d) :: rest => (a.key, d.json) :: jsonFields rest
end

def text (d : Dict) : String := d.json.text

def scalarOfJson (a : Attribute) (raw : Json.Value) : Except Fault Value :=
  let found := match a.kind with
    | .string => raw.str?.map .str
    | .boolean => raw.bool?.map .bool
    | .numeric => raw.count?.map .int
    | .hierarchical => none
  match found with
  | some v => .ok v
  | none => .error (.conversion (.wrongJson a raw.kindName))

mutual
def ofJsonAt (settings : Settings) (depth : Nat) (raw : Json.Value) : Except Fault Dict :=
  match raw with
  | .obj fields => do
      settings.checkDepth depth
      ofFields settings depth empty fields
  | _ => do
      settings.checkDepth depth
      .error (.conversion .notDict)

def ofFields (settings : Settings) (depth : Nat) (d : Dict) :
    List (String × Json.Value) → Except Fault Dict
  | [] => .ok d
  | (key, raw) :: rest =>
      match Attribute.ofKey? key with
      | none => .error (.conversion (.unknownAttribute key))
      | some a => do
          let v ← if a.isHierarchical then (ofJsonAt settings (depth + 1) raw).map .nested
            else scalarOfJson a raw
          ofFields settings depth (d.insert a v) rest
end

def ofJson (settings : Settings) (raw : Json.Value) : Except Fault Dict := ofJsonAt settings 1 raw

end ElementLocator.Dict

namespace ElementLocator.Value

def json : Value → Json.Value
  | .str s => .str s
  | .bool b => .bool b
  | .int n => .int n.toNat
  | .nested d => d.json

end ElementLocator.Value
