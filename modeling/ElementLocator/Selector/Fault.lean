import ElementLocator.Selector.Token
import ElementLocator.Decimal.Digits
/-! What can be wrong with the source of a selector, and the byte offset at which it shows. -/
namespace ElementLocator.Selector
open ElementLocator.Decimal (digits)

inductive LexCause where
  | unexpectedCharacter (c : Char)
  | unterminatedString
  | unknownEscape (c : Char)
  deriving DecidableEq, Repr

inductive ParseCause where
  | expected (kind : Kind) (found : Token)
  | unexpectedArgument (found : Token)
  | integerOutOfRange (literal : String)
  | tooNested (limit : Nat)
  deriving DecidableEq, Repr

inductive SourceFault where
  | lex (cause : LexCause) (offset : Nat)
  | parse (cause : ParseCause) (offset : Nat)
  deriving DecidableEq, Repr

def LexCause.message : LexCause → String
  | .unexpectedCharacter c => "unexpected character '" ++ String.ofList [c] ++ "'"
  | .unterminatedString => "unterminated string"
  | .unknownEscape c => "unknown escape sequence '\\" ++ String.ofList [c] ++ "'"

def ParseCause.message : ParseCause → String
  | .expected kind found => "expected " ++ kind.text ++ ", found " ++ found.text
  | .unexpectedArgument found => "unexpected " ++ found.text ++ " in argument"
  | .integerOutOfRange literal => "integer literal '" ++ literal ++ "' is out of range"
  | .tooNested limit => "selector nesting exceeds " ++ String.ofList (digits limit) ++ " levels"

def SourceFault.offset : SourceFault → Nat
  | .lex _ offset => offset
  | .parse _ offset => offset

def SourceFault.message : SourceFault → String
  | .lex cause offset =>
      "UiSelector lex error at offset " ++ String.ofList (digits offset) ++ ": " ++ cause.message
  | .parse cause offset =>
      "UiSelector parse error at offset " ++ String.ofList (digits offset) ++ ": " ++ cause.message

end ElementLocator.Selector
