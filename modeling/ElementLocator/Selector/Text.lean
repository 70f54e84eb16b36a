import ElementLocator.Selector.Basic
import ElementLocator.Decimal.Digits
/-! The written form of selectors. A whole selector ends in a semicolon, a nested one does not. -/
namespace ElementLocator.Selector
open ElementLocator.Decimal (digitsOfInt)

def escapedChar (c : Char) : List Char :=
  if c = '\\' then ['\\', '\\']
  else if c = '"' then ['\\', '"']
  else if c = '\n' then ['\\', 'n']
  else if c = '\t' then ['\\', 't']
  else [c]

def quoted (s : String) : String := String.ofList ('"' :: s.toList.flatMap escapedChar ++ ['"'])

mutual
def chain : Selector → String
  | .mk calls => "new UiSelector()" ++ callsText calls

def callsText : List Call → String
  | [] => ""
  | .mk name args :: rest => "." ++ name ++ "(" ++ argsText args ++ ")" ++ callsText rest

def argsText : List Arg → String
  | [] => ""
  | [a] => argText a
  | a :: b :: rest => argText a ++ ", " ++ argsText (b :: rest)

def argText : Arg → String
  | .str s => quoted s
  | .int n => String.ofList (digitsOfInt n.toInt)
  | .bool true => "true"
  | .bool false => "false"
  | .ident s => s
  | .nested s => s.chain
end

def text (s : Selector) : String := s.chain ++ ";"

end ElementLocator.Selector
