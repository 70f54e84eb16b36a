import ElementLocator.XPath.Fault
import ElementLocator.XPath.Grammar
/-! Reading an XPath source to its end. Sources with too many open brackets and parentheses are
refused before they are read. -/
namespace ElementLocator.XPath
open ElementLocator.Text

def maxNesting : Nat := 128

def withinNesting (limit : Nat) : Nat → Option Char → List Char → Bool
  | _, _, [] => true
  | depth, some mark, c :: cs =>
      withinNesting limit depth (if c = mark then none else some mark) cs
  | depth, none, c :: cs =>
      if c = '"' ∨ c = '\'' then withinNesting limit depth (some c) cs
      else if c = '[' ∨ c = '(' then
        decide (depth < limit) && withinNesting limit (depth + 1) none cs
      else if c = ']' ∨ c = ')' then withinNesting limit (depth - 1) none cs
      else withinNesting limit depth none cs

def reader : Parser true Expr := nested .never maxNesting

def afterAxis (cs : List Char) : List Char :=
  match axis.run (skipGap cs) with
  | some (_, rest) => rest
  | none => skipGap cs

def parse (text : String) : Except SourceFault Expr :=
  let cs := text.toList
  if withinNesting maxNesting 0 none cs then
    match reader.run (trim cs) with
    | some (e, []) => .ok e
    | some (_, rest) => .error (.leftover text (String.ofList rest))
    | none => .error (.unreadable text (String.ofList (afterAxis (trim cs))))
  else .error (.tooNested (maxNesting + 1) maxNesting)

end ElementLocator.XPath
