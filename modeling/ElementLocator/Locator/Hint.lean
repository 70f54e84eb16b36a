import ElementLocator.Locator.Check
/-! Hints on how to repair a locator with common mistakes. No hint means that nothing obvious is
wrong. -/
namespace ElementLocator

inductive Hint where
  | addConstructor
  | addSemicolon
  | balanceParentheses
  | closeString
  | renameMethod (name : String)
  | startWithStrokes
  | balanceBrackets
  | chainPredicates
  | renameAttribute (key : String)
  | useKind (kind : ValueKind) (key : String)
  | keepOne (keys : List String)
  | passObject
  deriving DecidableEq, Repr

def Hint.message : Hint → String
  | .addConstructor => "Add 'new UiSelector()' constructor"
  | .addSemicolon => "Add semicolon at the end"
  | .balanceParentheses => "Check for balanced parentheses"
  | .closeString => "Close the unterminated string"
  | .renameMethod name => "Remove or rename unknown method: " ++ name
  | .startWithStrokes => "XPath must start with //"
  | .balanceBrackets => "Check for balanced brackets"
  | .chainPredicates => "Split and/or conditions into chained predicates like [a][b]"
  | .renameAttribute key => "Remove or rename invalid attribute: " ++ key
  | .useKind kind key => "Use a " ++ kind.name ++ " value for " ++ key
  | .keepOne keys => "Keep only one of: " ++ Json.joined ", " keys
  | .passObject => "Pass the locator as a JSON object"

def Selector.hints (source : String) : List Hint :=
  let cs := unwrapped source.toList
  let b := balance cs
  (if hasConstructor cs then [] else [.addConstructor]) ++
    (if cs.getLast? = some ';' then [] else [.addSemicolon]) ++
    (if b.parentheses ≠ 0 then [.balanceParentheses] else []) ++
    (if b.openQuote then [.closeString] else []) ++
    (match parse (String.ofList cs) with
      | .ok s => s.unknownNames.map .renameMethod
      | .error _ => [])

def XPath.hints (source : String) : List Hint :=
  let cs := source.toList
  let s := scan cs
  (if startsWithStrokes cs then [] else [.startWithStrokes]) ++
    (if s.brackets ≠ 0 then [.balanceBrackets] else []) ++
    (if s.operators.isEmpty then [] else [.chainPredicates])

namespace Dict

def keyHints : List (String × Json.Value) → List Hint
  | [] => []
  | (key, v) :: rest =>
      let here := match Attribute.ofKey? key with
        | none => [.renameAttribute key]
        | some a => if fits a.kind v then [] else [.useKind a.kind key]
      here ++ keyHints rest

def familyHints (family : Family) (keys : List String) : List Hint :=
  let found := familyKeys family keys
  if 1 < found.length then [.keepOne found] else []

def hints : Json.Value → List Hint
  | .obj fields =>
      let keys := fields.map Prod.fst
      keyHints fields ++ familyHints .text keys ++ familyHints .description keys
  | _ => [.passObject]

end Dict

def Locator.hints : Locator → List Hint
  | .uiSelector s => Selector.hints s
  | .xpath s => XPath.hints s
  | .dict v => Dict.hints v

end ElementLocator
