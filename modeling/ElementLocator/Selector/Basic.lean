import ElementLocator.Json.Value
/-! Selectors: chains of calls, each with arguments, of which some are selectors again. -/
namespace ElementLocator

mutual
inductive Arg where
  | str (s : String)
  | int (n : Int64)
  | bool (b : Bool)
  | ident (s : String)
  | nested (s : Selector)

inductive Call where
  | mk (name : String) (args : List Arg)

inductive Selector where
  | mk (calls : List Call)
end

deriving instance Repr for Arg, Call, Selector

def Call.name : Call → String
  | .mk name _ => name

def Call.args : Call → List Arg
  | .mk _ args => args

def Arg.nested? : Arg → Option Selector
  | .nested s => some s
  | _ => none

namespace Selector

def calls : Selector → List Call
  | .mk calls => calls

def empty : Selector := .mk []

mutual
def depth : Selector → Nat
  | .mk calls => 1 + depthOfCalls calls

def depthOfCalls : List Call → Nat
  | [] => 0
  | .mk _ args :: rest => max (depthOfArgs args) (depthOfCalls rest)

def depthOfArgs : List Arg → Nat
  | [] => 0
  | .nested s :: rest => max s.depth (depthOfArgs rest)
  | _ :: rest => depthOfArgs rest
end

mutual
def names : Selector → List String
  | .mk calls => namesOfCalls calls

def namesOfCalls : List Call → List String
  | [] => []
  | .mk name args :: rest => name :: (namesOfArgs args ++ namesOfCalls rest)

def namesOfArgs : List Arg → List String
  | [] => []
  | .nested s :: rest => s.names ++ namesOfArgs rest
  | _ :: rest => namesOfArgs rest
end

mutual
def json : Selector → Json.Value
  | .mk calls => .obj [("methods", .arr (jsonOfCalls calls))]

def jsonOfCalls : List Call → List Json.Value
  | [] => []
  | .mk name args :: rest =>
      .obj [("name", .str name), ("args", .arr (jsonOfArgs args))] :: jsonOfCalls rest

def jsonOfArgs : List Arg → List Json.Value
  | [] => []
  | .str s :: rest => .str s :: jsonOfArgs rest
  | .int n :: rest => .int n.toInt :: jsonOfArgs rest
  | .bool b :: rest => .bool b :: jsonOfArgs rest
  | .ident s :: rest => .str s :: jsonOfArgs rest
  | .nested s :: rest => s.json :: jsonOfArgs rest
end

end Selector

end ElementLocator
