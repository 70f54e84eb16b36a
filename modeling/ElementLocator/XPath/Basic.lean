import ElementLocator.Decimal.Binary64
/-! XPath expressions of the kind that locates elements. Path operators nest to the left, so the
last step of a path is the right operand of the whole. -/
namespace ElementLocator.XPath
open ElementLocator.Decimal (Binary64)

inductive Operator where
  | or
  | and
  | equal
  | unequal
  | path
  | descendantPath
  deriving DecidableEq, Repr

def Operator.isPath : Operator → Bool
  | .path | .descendantPath => true
  | _ => false

def Operator.isLogical : Operator → Bool
  | .or | .and => true
  | _ => false

def Operator.symbol : Operator → String
  | .or => "or"
  | .and => "and"
  | .equal => "="
  | .unequal => "!="
  | .path => "/"
  | .descendantPath => "//"

inductive Axis where
  | child
  | descendant
  | descendantOrSelf
  | attribute
  | parent
  | ancestor
  | ancestorOrSelf
  | self
  | followingSibling
  | precedingSibling
  | following
  | preceding
  deriving DecidableEq, Repr

def Axis.name : Axis → String
  | .child => "child"
  | .descendant => "descendant"
  | .descendantOrSelf => "descendant-or-self"
  | .attribute => "attribute"
  | .parent => "parent"
  | .ancestor => "ancestor"
  | .ancestorOrSelf => "ancestor-or-self"
  | .self => "self"
  | .followingSibling => "following-sibling"
  | .precedingSibling => "preceding-sibling"
  | .following => "following"
  | .preceding => "preceding"

inductive NodeKind where
  | text
  | node
  | comment
  | instruction
  deriving DecidableEq, Repr

def NodeKind.name : NodeKind → String
  | .text => "text"
  | .node => "node"
  | .comment => "comment"
  | .instruction => "processing-instruction"

def NodeKind.all : List NodeKind := [.text, .node, .comment, .instruction]

inductive NodeTest where
  | name (s : String)
  | any
  | kind (k : NodeKind)
  deriving DecidableEq, Repr

inductive Expr where
  | literal (s : String)
  | number (x : Binary64)
  | root (descendant : Bool)
  | absolute (descendant : Bool) (relative : Expr)
  | binary (left : Expr) (op : Operator) (right : Expr)
  | step (axis : Option Axis) (test : NodeTest) (predicates : List Expr)
  | parent
  | current
  | call (name : String) (args : List Expr)
  | filtered (base : Expr) (predicates : List Expr)
  deriving Repr

def Expr.isStep : Expr → Bool
  | .step _ _ _ | .parent | .current => true
  | _ => false

def Expr.attributeName? : Expr → Option String
  | .step (some .attribute) (.name s) [] => some s
  | _ => none

def Expr.isTextTest : Expr → Bool
  | .step none (.kind .text) [] | .step (some .child) (.kind .text) [] => true
  | _ => false

end ElementLocator.XPath
