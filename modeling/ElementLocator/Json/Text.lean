import ElementLocator.Json.Value
import ElementLocator.Decimal.Shortest
import ElementLocator.Text.Visible
/-! JSON values as text, without any space. Quotes, backslashes and control characters are escaped,
all else is written as it is. -/
namespace ElementLocator.Json
open ElementLocator.Decimal (Layout digits digitsOfInt)
open ElementLocator.Text (hexDigit)

def numberLayout : Layout where
  wholeMark := ['.', '0']
  positional order := -5 ≤ order && order < 16
  tie := .even
  infinity := ['n', 'u', 'l', 'l']

def escapedChar (c : Char) : List Char :=
  if c = '"' then ['\\', '"']
  else if c = '\\' then ['\\', '\\']
  else if c = '\n' then ['\\', 'n']
  else if c = '\r' then ['\\', 'r']
  else if c = '\t' then ['\\', 't']
  else if c = '\x08' then ['\\', 'b']
  else if c = '\x0c' then ['\\', 'f']
  else if c.toNat < 32 then
    ['\\', 'u', '0', '0', hexDigit (c.toNat / 16), hexDigit (c.toNat % 16)]
  else [c]

def quoted (s : String) : String := String.ofList ('"' :: s.toList.flatMap escapedChar ++ ['"'])

def joined (separator : String) : List String → String
  | [] => ""
  | [s] => s
  | s :: t :: rest => s ++ separator ++ joined separator (t :: rest)

mutual
def Value.text : Value → String
  | .null => "null"
  | .bool true => "true"
  | .bool false => "false"
  | .int n => String.ofList (digitsOfInt n)
  | .float x => String.ofList (numberLayout.write x)
  | .str s => quoted s
  | .arr items => "[" ++ joined "," (itemTexts items) ++ "]"
  | .obj fields => "\x7b" ++ joined "," (fieldTexts fields) ++ "\x7d"

def itemTexts : List Value → List String
  | [] => []
  | v :: rest => v.text :: itemTexts rest

def fieldTexts : List (String × Value) → List String
  | [] => []
  | (key, v) :: rest => (quoted key ++ ":" ++ v.text) :: fieldTexts rest
end

end ElementLocator.Json
