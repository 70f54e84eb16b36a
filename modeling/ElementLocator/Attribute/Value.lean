import ElementLocator.Fault
import ElementLocator.XPath.Literal
/-! Values of attributes: which ones an attribute takes, how they are written in XPath and in
selectors, and how they are read from there. -/
namespace ElementLocator.Attribute
open ElementLocator.Decimal (unsigned?)
open ElementLocator.Text (sameLetters)

def wrongValue (a : Attribute) (v : Value) : Fault := .conversion (.wrongValue a v.kindName)

def place (n : UInt32) : String := numeral (n.toNat + 1)

def literal (a : Attribute) (v : Value) : Except Fault String :=
  match a.kind, v with
  | .string, .str s => .ok (XPath.literalOf s)
  | .boolean, .bool b => .ok (if b then "\"true\"" else "\"false\"")
  | _, _ => .error (a.wrongValue v)

def predicate (a : Attribute) (v : Value) : Except Fault String :=
  match a, v with
  | .index, .int n => .ok ("[position()=" ++ place n ++ "]")
  | .occurrence, .int n => .ok ("[" ++ place n ++ "]")
  | _, _ =>
      match a.xpathName with
      | none => .error (a.wrongValue v)
      | some name => do
          let literal ← a.literal v
          match a.mode.function? with
          | some function => .ok ("[" ++ function ++ "(@" ++ name ++ ", " ++ literal ++ ")]")
          | none => .ok ("[@" ++ name ++ "=" ++ literal ++ "]")

def argument (a : Attribute) (v : Value) : Except Fault Arg :=
  match a.kind, v with
  | .string, .str s => .ok (.str s)
  | .boolean, .bool b => .ok (.bool b)
  | .numeric, .int n => .ok (.int (Int64.ofNat n.toNat))
  | _, _ => .error (a.wrongValue v)

def valueOfArgument (a : Attribute) (arg : Arg) : Except Fault Value :=
  match a.kind, arg with
  | .string, .str s => .ok (.str s)
  | .string, .ident s => .ok (.str s)
  | .boolean, .bool b => .ok (.bool b)
  | .numeric, .int n =>
      let n := n.toInt
      if 0 ≤ n ∧ n < UInt32.size then .ok (.int (UInt32.ofNat n.toNat))
      else .error (.conversion (.negativeArgument a n))
  | .hierarchical, _ => .error (.conversion (.selectorMissing a))
  | _, _ => .error (.conversion (.wrongArgument a arg))

def valueOfArguments (a : Attribute) : List Arg → Except Fault Value
  | [] => if a.kind = .boolean then .ok (.bool true) else .error (.conversion (.noArgument a))
  | [arg] => a.valueOfArgument arg
  | args => .error (.conversion (.manyArguments a args.length))

def valueOfLiteral (a : Attribute) (literal : String) : Except Fault Value :=
  match a.kind with
  | .string => .ok (.str literal)
  | .boolean =>
      if sameLetters literal.toList ['t', 'r', 'u', 'e'] then .ok (.bool true)
      else if sameLetters literal.toList ['f', 'a', 'l', 's', 'e'] then .ok (.bool false)
      else .error (.conversion (.wrongLiteral a literal))
  | .numeric =>
      match unsigned? literal.toList with
      | some n =>
          if n < UInt32.size then .ok (.int (UInt32.ofNat n))
          else .error (.conversion (.wrongNumeral a literal))
      | none => .error (.conversion (.wrongNumeral a literal))
  | .hierarchical => .error (.conversion (.wrongLiteral a literal))

end ElementLocator.Attribute
