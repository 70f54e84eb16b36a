import ElementLocator.Text.Parser
import ElementLocator.Text.Letter
import ElementLocator.Json.Tree
/-! Reading JSON text. -/
namespace ElementLocator.Json
open ElementLocator.Text
open ElementLocator.Decimal (value)

/- One character of a string as written: itself or a named escape, or four hexadecimal
digits for a unit of UTF-16. -/
inductive Piece where
  | plain (c : Char)
  | unit (n : Nat)

def hexValue? (c : Char) : Option Nat :=
  if isDigit c then some (c.toNat - 48)
  else if 'a' ≤ c ∧ c ≤ 'f' then some (c.toNat - 87)
  else if 'A' ≤ c ∧ c ≤ 'F' then some (c.toNat - 55)
  else none

def hexDigitParser : Parser true Nat :=
  (Parser.one (fun c => (hexValue? c).isSome)).map (fun c => (hexValue? c).getD 0)

def fourHex : Parser true Nat :=
  (hexDigitParser.andThen (hexDigitParser.andThen (hexDigitParser.andThen hexDigitParser))).map
    fun (a, b, c, d) => 4096 * a + 256 * b + 16 * c + d

def named (written meant : Char) : Parser true Piece :=
  (Parser.char written).map (fun _ => .plain meant)

def escape : Parser true Piece :=
  (Parser.char '\\').skipThen <|
    (named '"' '"').either <| (named '\\' '\\').either <| (named '/' '/').either <|
    (named 'b' '\x08').either <| (named 'f' '\x0c').either <| (named 'n' '\n').either <|
    (named 'r' '\r').either <| (named 't' '\t').either <|
    ((Parser.char 'u').skipThen fourHex).map .unit

def piece : Parser true Piece :=
  escape.either ((Parser.one (fun c => 32 ≤ c.toNat && c != '"' && c != '\\')).map .plain)

def isHigh (n : Nat) : Bool := 0xD800 ≤ n && n < 0xDC00

def isLow (n : Nat) : Bool := 0xDC00 ≤ n && n < 0xE000

def assembled : List Piece → Option (List Char)
  | [] => some []
  | .plain c :: rest => (assembled rest).map (c :: ·)
  | .unit high :: .unit low :: rest =>
      if isHigh high then
        if isLow low then
          (assembled rest).map (Char.ofNat (0x10000 + 1024 * (high - 0xD800) + (low - 0xDC00)) :: ·)
        else none
      else if isLow high then none
      else (assembled (.unit low :: rest)).map (Char.ofNat high :: ·)
  | .unit n :: rest =>
      if isHigh n || isLow n then none else (assembled rest).map (Char.ofNat n :: ·)

def string : Parser true (Option String) :=
  (((Parser.char '"').skipThen piece.many).thenSkip (Parser.char '"')).map
    fun pieces => (assembled pieces).map String.ofList

def whole : Parser true (List Char) :=
  ((Parser.char '0').map (fun _ => ['0'])).either (Parser.span1 isDigit)

def fraction : Parser false (List Char) :=
  ((Parser.char '.').skipThen (Parser.span1 isDigit)).optional.map (·.getD [])

def sign : Parser false Bool :=
  (((Parser.char '-').map (fun _ => true)).either
    ((Parser.char '+').map (fun _ => false))).optional.map (·.getD false)

def exponent : Parser false (Option Int) :=
  ((Parser.one (fun c => c = 'e' || c = 'E')).skipThen
    (sign.andThen (Parser.span1 isDigit))).optional.map fun found =>
      found.map (fun (negative, ds) => if negative then -(value ds : Int) else value ds)

def number : Parser true Tree :=
  ((Parser.char '-').optional.andThen (whole.andThen (fraction.andThen exponent))).map
    fun (minus, whole, fraction, exponent) => .number ⟨minus.isSome, whole, fraction, exponent⟩

def scalar : Parser true Tree :=
  ((Parser.word "null").map (fun _ => .null)).either <|
  ((Parser.word "true").map (fun _ => .bool true)).either <|
  ((Parser.word "false").map (fun _ => .bool false)).either <|
  (string.map .string).either number

def array (item : Parser true Tree) : Parser true Tree :=
  (((Parser.char '[').padded.skipThen (item.padded.separated (Parser.char ','))).thenSkip
    (Parser.char ']')).map .array

def object (item : Parser true Tree) : Parser true Tree :=
  let field := (string.padded.thenSkip (Parser.char ':')).andThen item.padded
  (((Parser.char '\x7b').padded.skipThen (field.separated (Parser.char ','))).thenSkip
    (Parser.char '\x7d')).map .object

def nested : Nat → Parser true Tree
  | 0 => scalar
  | levels + 1 =>
      let inner := nested levels
      scalar.either ((array inner).either (object inner))

/- No text nests deeper than it has opening brackets. -/
def openings (cs : List Char) : Nat := cs.countP (fun c => c = '[' || c = '\x7b')

def tree? (text : String) : Option Tree :=
  let cs := text.toList
  (nested (openings cs)).padded.whole? cs

def Value.read? (text : String) : Option Value := do
  let tree ← tree? text
  tree.value?

end ElementLocator.Json
