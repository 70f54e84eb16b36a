import ElementLocator.Selector.Cursor
/-! Sources that hold one selector and nothing else. -/
namespace ElementLocator.Selector
open ElementLocator.Text

def unwrapped (cs : List Char) : List Char :=
  match trim cs with
  | '\'' :: rest => if rest.getLast? = some '\'' then rest.dropLast else '\'' :: rest
  | cs => cs

def unwrap (source : String) : String := String.ofList (unwrapped source.toList)

def parse (source : String) : Except SourceFault Selector := do
  let ts ← tokensFrom 0 (unwrapped source.toList)
  let (outcome, rest) := (Cursor.ofTokens ts).next
  let selector ← outcome
  if rest.atEnd then .ok selector
  else .error (.parse (.expected .ending rest.peek) rest.peek.offset)

end ElementLocator.Selector
