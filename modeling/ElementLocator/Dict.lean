import ElementLocator.Attribute
/-! Dictionary locators: attributes with their values, in the order in which they were first given.
Giving an attribute again replaces its value and keeps its place. -/
namespace ElementLocator

mutual
inductive Value where
  | str (s : String)
  | bool (b : Bool)
  | int (n : UInt32)
  | nested (d : Dict)

inductive Dict where
  | mk (entries : List (Attribute × Value))
end

deriving instance Repr for Value, Dict

def Value.nested? : Value → Option Dict
  | .nested d => some d
  | _ => none

def Value.kindName : Value → String
  | .str _ => "string"
  | .bool _ => "boolean"
  | .int _ => "integer"
  | .nested _ => "nested locator"

namespace Dict

def entries : Dict → List (Attribute × Value)
  | .mk entries => entries

def empty : Dict := .mk []

def isEmpty (d : Dict) : Bool := d.entries.isEmpty

def size (d : Dict) : Nat := d.entries.length

def keys (d : Dict) : List Attribute := d.entries.map Prod.fst

def placed (a : Attribute) (v : Value) : List (Attribute × Value) → List (Attribute × Value)
  | [] => [(a, v)]
  | (b, w) :: rest => if b = a then (b, v) :: rest else (b, w) :: placed a v rest

def insert (d : Dict) (a : Attribute) (v : Value) : Dict := .mk (placed a v d.entries)

def get? (d : Dict) (a : Attribute) : Option Value :=
  (d.entries.find? fun entry => entry.1 = a).map Prod.snd

def contains (d : Dict) (a : Attribute) : Bool := (d.get? a).isSome

def merge (d other : Dict) : Dict :=
  other.entries.foldl (fun d (a, v) => d.insert a v) d

def ofList (entries : List (Attribute × Value)) : Dict :=
  entries.foldl (fun d (a, v) => d.insert a v) empty

mutual
def depth : Dict → Nat
  | .mk entries => 1 + depthOfEntries entries

def depthOfEntries : List (Attribute × Value) → Nat
  | [] => 0
  | (_, .nested d) :: rest => max d.depth (depthOfEntries rest)
  | _ :: rest => depthOfEntries rest
end

end Dict

end ElementLocator
