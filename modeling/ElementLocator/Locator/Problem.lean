import ElementLocator.Attribute
import ElementLocator.Locator
import ElementLocator.XPath.Basic
import ElementLocator.XPath.Fault
/-! What a check can find wrong with a locator. -/
namespace ElementLocator
open ElementLocator.Decimal (digits)

inductive Problem where
  | notString (format : Format)
  | noConstructor
  | openQuote
  | openParenthesis
  | unknownMethod (name : String)
  | unreadableSelector (fault : Selector.SourceFault)
  | noLeadingStrokes
  | openBracket
  | openPredicate (text : String)
  | logicalOperator (op : XPath.Operator)
  | unreadableXPath (fault : XPath.SourceFault)
  | emptyDict
  | notDict
  | tooNested (limit : Nat)
  | unknownAttribute (path : String)
  | wrongKind (path : String) (kind : ValueKind) (found : String)
  | conflict (family : Family) (paths : List String)
  deriving Repr

def Problem.message : Problem → String
  | .notString format => format.name ++ " locator must be a string"
  | .noConstructor => "Invalid UiSelector format: expected new UiSelector()"
  | .openQuote => "Unbalanced quotes"
  | .openParenthesis => "Unbalanced parentheses"
  | .unknownMethod name => "Unknown UiSelector method: " ++ name
  | .unreadableSelector fault => "Invalid UiSelector format: " ++ fault.message
  | .noLeadingStrokes => "XPath must start with //"
  | .openBracket => "Unbalanced brackets"
  | .openPredicate text => "Unbalanced quotes in predicate: " ++ text
  | .logicalOperator op =>
      "Logical operator '" ++ op.symbol ++ "' is not supported; chain predicates instead"
  | .unreadableXPath fault => fault.message
  | .emptyDict => "Locator dictionary cannot be empty"
  | .notDict => "Locator must be a dictionary"
  | .tooNested limit => "Locator nesting exceeds " ++ String.ofList (digits limit) ++ " levels"
  | .unknownAttribute path => "Unknown attribute: " ++ path
  | .wrongKind path kind found =>
      "Attribute " ++ path ++ " must be " ++ kind.name ++ ", got " ++ found
  | .conflict family paths =>
      "Locator has conflicting " ++ family.name ++ " attributes: " ++ Json.joined ", " paths

end ElementLocator
