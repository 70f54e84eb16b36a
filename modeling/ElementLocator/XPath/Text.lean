import ElementLocator.XPath.Basic
import ElementLocator.Decimal.Shortest
/-! The written form of XPath expressions. Parentheses stand only around an expression that has
predicates of its own. -/
namespace ElementLocator.XPath
open ElementLocator.Decimal (Binary64 Layout)

def numberLayout : Layout where
  wholeMark := []
  positional _ := true
  tie := .up
  infinity := ['i', 'n', 'f']

def numberText (x : Binary64) : String := String.ofList (numberLayout.write x)

def literalText (s : String) : String :=
  if s.toList.contains '"' then "'" ++ s ++ "'" else "\"" ++ s ++ "\""

def strokes (descendant : Bool) : String := if descendant then "//" else "/"

def axisText : Option Axis → String
  | none => ""
  | some .attribute => "@"
  | some axis => axis.name ++ "::"

def NodeTest.text : NodeTest → String
  | .name s => s
  | .any => "*"
  | .kind k => k.name ++ "()"

def Operator.spaced (op : Operator) : String :=
  if op.isPath then op.symbol else " " ++ op.symbol ++ " "

mutual
def Expr.text : Expr → String
  | .literal s => literalText s
  | .number x => numberText x
  | .root descendant => strokes descendant
  | .absolute descendant relative => strokes descendant ++ relative.text
  | .binary left op right => left.text ++ op.spaced ++ right.text
  | .step axis test predicates => axisText axis ++ test.text ++ predicatesText predicates
  | .parent => ".."
  | .current => "."
  | .call name args => name ++ "(" ++ argsText args ++ ")"
  | .filtered base predicates => "(" ++ base.text ++ ")" ++ predicatesText predicates

def predicatesText : List Expr → String
  | [] => ""
  | p :: rest => "[" ++ p.text ++ "]" ++ predicatesText rest

def argsText : List Expr → String
  | [] => ""
  | [a] => a.text
  | a :: b :: rest => a.text ++ ", " ++ argsText (b :: rest)
end

end ElementLocator.XPath
