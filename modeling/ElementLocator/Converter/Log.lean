import ElementLocator.Fault
/-! What a converter logs. Each conversion ends in one line, after the methods that it passed
over. -/
namespace ElementLocator

inductive Operation where
  | selectorToXPath
  | selectorToDict
  | parseSelector
  | dictToXPath
  | dictToSelector
  | xpathToDict
  | xpathToSelector
  | unchanged
  deriving DecidableEq, Repr

def Operation.name : Operation → String
  | .selectorToXPath => "ui_selector_to_xpath"
  | .selectorToDict => "ui_selector_to_dict"
  | .parseSelector => "parse_ui_selector"
  | .dictToXPath => "dict_to_xpath"
  | .dictToSelector => "dict_to_ui_selector"
  | .xpathToDict => "xpath_to_dict"
  | .xpathToSelector => "xpath_to_ui_selector"
  | .unchanged => "convert"

inductive LogLine where
  | succeeded (op : Operation)
  | failed (op : Operation) (fault : Fault)
  | skipped (method : String)
  | batchItem (index : Nat) (fault : Fault)
  deriving Repr

def LogLine.level : LogLine → String
  | .succeeded _ => "DEBUG"
  | .failed _ _ => "ERROR"
  | .skipped _ | .batchItem _ _ => "WARN"

def LogLine.message : LogLine → String
  | .succeeded op => op.name ++ " succeeded"
  | .failed op fault => op.name ++ " failed: " ++ fault.message
  | .skipped method => "Skipping unknown UiSelector method '" ++ method ++ "'"
  | .batchItem index fault => "Batch item " ++ numeral index ++ " failed: " ++ fault.message

end ElementLocator
