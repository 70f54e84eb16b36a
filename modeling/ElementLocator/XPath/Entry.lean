import ElementLocator.Attribute.Value
/-! The entry of a dictionary that a predicate asks for: a position, a comparison with an
attribute or with the text, a function on one of these, or the presence of a boolean attribute. -/
namespace ElementLocator.XPath
open ElementLocator.Decimal (Binary64)

def positionBefore (x : Binary64) : Except Fault UInt32 :=
  match x.negative, x.magnitude.natural? with
  | false, some n =>
      if 1 ≤ n ∧ n < UInt32.size then .ok (UInt32.ofNat (n - 1))
      else .error (.conversion (.badPosition x))
  | _, _ => .error (.conversion (.badPosition x))

def comparedPosition? : Expr → Expr → Option Binary64
  | .call "position" [], .number x => some x
  | .number x, .call "position" [] => some x
  | _, _ => none

def attributeOperand? (e : Expr) : Option String :=
  match e.attributeName? with
  | some name => some name
  | none => if e.isTextTest then some "text" else none

mutual
def literalValue? : Expr → Option String
  | .literal s => some s
  | .call name args => if name = "concat" then literalValues? args else none
  | _ => none

def literalValues? : List Expr → Option String
  | [] => some ""
  | e :: rest => do
      let s ← literalValue? e
      let more ← literalValues? rest
      some (s ++ more)
end

def operandPair? (name literal : Expr) : Option (String × String) := do
  let name ← attributeOperand? name
  let s ← literalValue? literal
  some (name, s)

def ofComparison (left right : Expr) : Except Fault (Attribute × Value) :=
  match comparedPosition? left right with
  | some x => do
      let n ← positionBefore x
      .ok (.index, .int n)
  | none =>
      match (operandPair? left right).or (operandPair? right left) with
      | none => .error (.conversion (.unsupportedPredicate (.binary left .equal right)))
      | some (name, s) =>
          match Attribute.ofXPath? name .equals with
          | none => .error (.conversion (.unsupportedXPathAttribute name))
          | some a => do
              let v ← a.valueOfLiteral s
              .ok (a, v)

def ofCall (name : String) (args : List Expr) : Except Fault (Attribute × Value) :=
  match MatchMode.ofFunction? name with
  | none => .error (.conversion (.unsupportedFunction name))
  | some mode =>
      match args with
      | [target, pattern] =>
          match attributeOperand? target, literalValue? pattern with
          | some tested, some s =>
              match Attribute.ofXPath? tested mode with
              | none => .error (.conversion (.functionAttribute name tested))
              | some a => .ok (a, .str s)
          | _, _ => .error (.conversion (.unsupportedPredicate (.call name args)))
      | _ => .error (.conversion (.functionArguments name args.length))

def ofPresence (e : Expr) : Except Fault (Attribute × Value) :=
  match e.attributeName? with
  | none => .error (.conversion (.unsupportedPredicate e))
  | some name =>
      match Attribute.ofXPath? name .equals with
      | some a =>
          if a.kind = .boolean then .ok (a, .bool true)
          else .error (.conversion (.presenceTest name))
      | none => .error (.conversion (.presenceTest name))

def entryOf (predicate : Expr) : Except Fault (Attribute × Value) :=
  match predicate with
  | .number x => do
      let n ← positionBefore x
      .ok (.occurrence, .int n)
  | .binary left .equal right => ofComparison left right
  | .binary left op right =>
      if op.isLogical then
        .error (.conversion (.unsupportedOperator op (.binary left op right)))
      else .error (.conversion (.unsupportedPredicate (.binary left op right)))
  | .call name args => ofCall name args
  | .step axis test predicates => ofPresence (.step axis test predicates)
  | e => .error (.conversion (.unsupportedPredicate e))

end ElementLocator.XPath
