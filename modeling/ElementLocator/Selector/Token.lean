/-! The words of a selector's source and how they are named in messages. -/
namespace ElementLocator.Selector

inductive Kind where
  | dot
  | name
  | opening
  | closing
  | string
  | number
  | yes
  | no
  | new
  | uiSelector
  | semicolon
  | ending
  deriving DecidableEq, Repr

/-- The literal is the value of a string and the source text of any other token. The offset
counts bytes. -/
structure Token where
  kind : Kind
  literal : String
  offset : Nat
  deriving DecidableEq, Repr

def Kind.text : Kind → String
  | .dot => "'.'"
  | .name => "identifier"
  | .opening => "'('"
  | .closing => "')'"
  | .string => "string"
  | .number => "number"
  | .yes => "'true'"
  | .no => "'false'"
  | .new => "'new'"
  | .uiSelector => "'UiSelector'"
  | .semicolon => "';'"
  | .ending => "end of input"

def Token.text (t : Token) : String :=
  match t.kind with
  | .name | .number => t.kind.text ++ " '" ++ t.literal ++ "'"
  | .string => "string \"" ++ t.literal ++ "\""
  | kind => kind.text

end ElementLocator.Selector
