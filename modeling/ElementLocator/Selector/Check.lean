import ElementLocator.Locator.Problem
/-! Checking the source of a selector: its constructor, its quotes and parentheses, then its grammar
and the names of its methods. -/
namespace ElementLocator.Selector

def hasConstructor (cs : List Char) : Bool :=
  match tokensFrom 0 cs with
  | .ok ts => (ts.take 4).map Token.kind = [.new, .uiSelector, .opening, .closing]
  | .error _ => ("new UiSelector()".toList).isPrefixOf cs

structure Balance where
  parentheses : Int
  openQuote : Bool
  deriving DecidableEq, Repr

def Balance.scan (b : Balance) (escaped : Bool) : List Char → Balance
  | [] => b
  | c :: cs =>
      if b.openQuote then
        if escaped then b.scan false cs
        else if c = '\\' then b.scan true cs
        else if c = '"' then { b with openQuote := false }.scan false cs
        else b.scan false cs
      else if c = '"' then { b with openQuote := true }.scan escaped cs
      else if c = '(' then { b with parentheses := b.parentheses + 1 }.scan escaped cs
      else if c = ')' then { b with parentheses := b.parentheses - 1 }.scan escaped cs
      else b.scan escaped cs

def balance (cs : List Char) : Balance := Balance.scan ⟨0, false⟩ false cs

def unknownNames (s : Selector) : List String :=
  (s.names.filter fun name => (Attribute.ofMethod? name).isNone).eraseDups

def balanceProblems (b : Balance) : List Problem :=
  (if b.openQuote then [.openQuote] else []) ++
    (if b.parentheses ≠ 0 then [.openParenthesis] else [])

def grammarProblems (source : String) : List Problem :=
  match parse source with
  | .ok s => s.unknownNames.map .unknownMethod
  | .error fault => [.unreadableSelector fault]

def problems (source : String) : List Problem :=
  let cs := unwrapped source.toList
  if hasConstructor cs then
    match balanceProblems (balance cs) with
    | [] => grammarProblems (String.ofList cs)
    | found => found
  else [.noConstructor]

end ElementLocator.Selector
