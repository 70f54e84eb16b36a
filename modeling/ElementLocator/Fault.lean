import ElementLocator.Dict
import ElementLocator.Locator.Problem
import ElementLocator.Selector.Text
import ElementLocator.XPath.Source
import ElementLocator.XPath.Text
/-! Every way in which a conversion can fail. -/
namespace ElementLocator
open ElementLocator.Decimal (Binary64 digits digitsOfInt)

inductive ConversionCause where
  | tooDeep (depth limit : Nat)
  | notDict
  | unknownAttribute (key : String)
  | wrongJson (a : Attribute) (found : String)
  | wrongValue (a : Attribute) (found : String)
  | wrongLiteral (a : Attribute) (literal : String)
  | wrongNumeral (a : Attribute) (literal : String)
  | notHierarchical (a : Attribute)
  | unknownMethod (name : String)
  | noArgument (a : Attribute)
  | manyArguments (a : Attribute) (count : Nat)
  | wrongArgument (a : Attribute) (found : Arg)
  | negativeArgument (a : Attribute) (n : Int)
  | selectorMissing (a : Attribute)
  | selectorExpected (a : Attribute) (found : Arg)
  | oneSelectorExpected (a : Attribute) (count : Nat)
  | noSteps
  | unsupportedExpression (e : XPath.Expr)
  | unsupportedAxis (axis : XPath.Axis)
  | unsupportedNodeTest (kind : XPath.NodeKind)
  | unsupportedPredicate (e : XPath.Expr)
  | unsupportedOperator (op : XPath.Operator) (e : XPath.Expr)
  | unsupportedXPathAttribute (name : String)
  | unsupportedFunction (name : String)
  | functionArguments (name : String) (count : Nat)
  | functionAttribute (function name : String)
  | presenceTest (name : String)
  | badPosition (x : Binary64)
  | producedDict (target : Format)
  deriving Repr

def numeral (n : Nat) : String := String.ofList (digits n)

def ConversionCause.message : ConversionCause → String
  | .tooDeep depth limit =>
      "Nesting depth " ++ numeral depth ++ " exceeds the limit of " ++ numeral limit
  | .notDict => "Locator must be a dictionary"
  | .unknownAttribute key => "Unknown attribute: " ++ key
  | .wrongJson a found =>
      "Attribute " ++ a.key ++ " must be " ++ a.kind.name ++ ", got " ++ found
  | .wrongValue a found =>
      "Attribute " ++ a.key ++ " requires a " ++ a.kind.name ++ " value, got " ++ found
  | .wrongLiteral a literal =>
      "Attribute " ++ a.key ++ " requires a " ++ a.kind.name ++ " value, got '" ++ literal ++ "'"
  | .wrongNumeral a literal =>
      "Attribute " ++ a.key ++ " requires a non-negative integer, got '" ++ literal ++ "'"
  | .notHierarchical a => "Attribute " ++ a.key ++ " cannot hold a nested locator"
  | .unknownMethod name => "Unknown UiSelector method: " ++ name
  | .noArgument a => "Method " ++ a.method ++ " requires an argument"
  | .manyArguments a count =>
      "Method " ++ a.method ++ " accepts at most one argument, got " ++ numeral count
  | .wrongArgument a found =>
      "Method " ++ a.method ++ " expects a " ++ a.kind.name ++ " argument, got " ++
        Selector.argText found
  | .negativeArgument a n =>
      "Method " ++ a.method ++ " requires a non-negative integer, got " ++
        String.ofList (digitsOfInt n)
  | .selectorMissing a => "Method " ++ a.method ++ " requires a nested UiSelector"
  | .selectorExpected a found =>
      "Method " ++ a.method ++ " requires a nested UiSelector, got " ++ Selector.argText found
  | .oneSelectorExpected a count =>
      "Method " ++ a.method ++ " requires exactly one nested UiSelector, got " ++ numeral count ++
        " arguments"
  | .noSteps => "XPath has no location steps"
  | .unsupportedExpression e => "Unsupported XPath expression: " ++ e.text
  | .unsupportedAxis axis => "Unsupported XPath axis: " ++ axis.name ++ "::"
  | .unsupportedNodeTest kind => "Unsupported node test: " ++ kind.name ++ "()"
  | .unsupportedPredicate e => "Unsupported predicate: [" ++ e.text ++ "]"
  | .unsupportedOperator op e =>
      "Logical operator '" ++ op.symbol ++ "' is not supported in predicates: [" ++ e.text ++ "]"
  | .unsupportedXPathAttribute name => "Unsupported XPath attribute: @" ++ name
  | .unsupportedFunction name => "Unsupported XPath function: " ++ name ++ "()"
  | .functionArguments name count => name ++ "() expects 2 arguments, got " ++ numeral count
  | .functionAttribute function name => function ++ "() is not supported for @" ++ name
  | .presenceTest name => "Presence test [@" ++ name ++ "] requires a boolean attribute"
  | .badPosition x => "Position must be a positive integer, got " ++ XPath.numberText x
  | .producedDict target => "Conversion to " ++ target.name ++ " produced a dictionary"

inductive Fault where
  | selector (fault : Selector.SourceFault)
  | xpath (fault : XPath.SourceFault)
  | invalid (format : Format) (problems : List Problem)
  | conversion (cause : ConversionCause)
  | unsupportedFormat (name : String)
  | zeroDepth
  deriving Repr

def Fault.message : Fault → String
  | .selector (.lex cause offset) =>
      "Lexing failed: " ++ (Selector.SourceFault.lex cause offset).message
  | .selector (.parse cause offset) =>
      "Parsing failed: " ++ (Selector.SourceFault.parse cause offset).message
  | .xpath fault => "XPath parsing failed: " ++ fault.message
  | .invalid format problems =>
      "Invalid " ++ format.name ++ " locator: " ++ Json.joined "; " (problems.map Problem.message)
  | .conversion cause => "Conversion failed: " ++ cause.message
  | .unsupportedFormat name => "Unsupported locator format: " ++ name
  | .zeroDepth => "Invalid converter configuration: max_depth must be at least 1"

def Selector.ofSource (source : String) : Except Fault Selector :=
  match parse source with
  | .ok s => .ok s
  | .error fault => .error (.selector fault)

def XPath.Expr.ofSource (source : String) : Except Fault Expr :=
  match parse source with
  | .ok e => .ok e
  | .error fault => .error (.xpath fault)

def Format.ofName (name : String) : Except Fault Format :=
  match ofName? name with
  | some format => .ok format
  | none => .error (.unsupportedFormat name)

def Locator.ofFormat (format : Format) (value : Json.Value) : Except Fault Locator :=
  match ofFormat? format value with
  | some locator => .ok locator
  | none => .error (.invalid format [.notString format])

end ElementLocator
