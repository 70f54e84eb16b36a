import ElementLocator.Decimal.Digits
import ElementLocator.Text.Visible
/-! What can be wrong with an XPath source. -/
namespace ElementLocator.XPath
open ElementLocator.Text (shown)
open ElementLocator.Decimal (digits)

inductive SourceFault where
  | leftover (source rest : String)
  | unreadable (source rest : String)
  | tooNested (depth limit : Nat)
  deriving DecidableEq, Repr

def SourceFault.message : SourceFault → String
  | .leftover source rest =>
      "XPath parse error in '" ++ source ++ "': Parser did not consume all input. Remainder: '" ++
        rest ++ "'"
  | .unreadable source rest =>
      "XPath parse error in '" ++ source ++ "': Parsing Error: Error \x7b input: " ++
        String.ofList (shown rest.toList) ++ ", code: TakeWhile1 \x7d"
  | .tooNested depth limit =>
      "XPath nesting depth " ++ String.ofList (digits depth) ++ " exceeds the limit of " ++
        String.ofList (digits limit)

end ElementLocator.XPath
