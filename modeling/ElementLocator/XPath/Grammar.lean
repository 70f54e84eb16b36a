import ElementLocator.Text.Parser
import ElementLocator.Text.Letter
import ElementLocator.XPath.Basic
/-! The grammar of XPath expressions, from the loosest operator to the tightest.

    or       := and ("or" and)*
    and      := equality ("and" equality)*
    equality := path (("=" | "!=") path)*
    path     := stroke relative? | primary (stroke step)* | relative
    relative := step (stroke step)*
    primary  := number | string | name "(" arguments ")" | "(" or ")" predicate*
    step     := ".." | "." | axis? test predicate*

Gaps may stand around operators, paths, brackets, parentheses and commas, but not around strokes.
The first alternative that can be read is taken. -/
namespace ElementLocator.XPath
open ElementLocator.Text
open ElementLocator.Decimal (Magnitude value)

def isNameStart (c : Char) : Bool := isLetter c || c = '_'

def isNamePart (c : Char) : Bool :=
  isAlphanumeric c || c = '_' || c = '-' || c = '.' || c = '$'

def name : Parser true String :=
  ((Parser.one isNameStart).andThen (Parser.span isNamePart)).map
    fun (first, more) => String.ofList (first :: more)

def number : Parser true Expr :=
  ((Parser.span1 isDigit).andThen ((Parser.char '.').skipThen (Parser.span1 isDigit)).optional).map
    fun (whole, fraction) =>
      let fraction := fraction.getD []
      .number ⟨false, Magnitude.ofDecimal (value (whole ++ fraction)) (-(fraction.length : Int))⟩

def quotedBy (mark : Char) : Parser true Expr :=
  (((Parser.char mark).skipThen (Parser.span (· != mark))).thenSkip (Parser.char mark)).map
    fun s => .literal (String.ofList s)

def literal : Parser true Expr := (quotedBy '\'').either (quotedBy '"')

def startsNamePart : List Char → Bool
  | [] => false
  | c :: _ => isNamePart c

def operator (op : Operator) : Parser true Operator := (Parser.word op.symbol).map (fun _ => op)

def logical (op : Operator) : Parser true Operator :=
  (operator op).provided fun _ rest => !startsNamePart rest

def comparison : Parser true Operator := (operator .unequal).either (operator .equal)

def stroke : Parser true Operator := (operator .descendantPath).either (operator .path)

def axisName : Parser true Axis :=
  let named (axis : Axis) : Parser true Axis := (Parser.word axis.name).map (fun _ => axis)
  (named .descendantOrSelf).either <| (named .descendant).either <|
  (named .ancestorOrSelf).either <| (named .ancestor).either <|
  (named .followingSibling).either <| (named .following).either <|
  (named .precedingSibling).either <| (named .preceding).either <|
  (named .child).either <| (named .attribute).either <| (named .parent).either (named .self)

def axis : Parser true Axis :=
  ((Parser.char '@').map (fun _ => .attribute)).either (axisName.thenSkip (Parser.word "::"))

def nodeKind : Parser true NodeKind :=
  let named (k : NodeKind) : Parser true NodeKind := (Parser.word k.name).map (fun _ => k)
  ((named .text).either <| (named .node).either <|
    (named .comment).either (named .instruction)).thenSkip
      ((Parser.char '(').padded.thenSkip (Parser.char ')'))

def nodeTest : Parser true NodeTest :=
  ((Parser.char '*').map (fun _ => .any)).either <|
  (nodeKind.map .kind).either (name.map .name)

def predicate (inner : Parser true Expr) : Parser true Expr :=
  ((Parser.char '[').padded.skipThen inner).thenSkip (Parser.char ']').padded

def fullStep (inner : Parser true Expr) : Parser true Expr :=
  (axis.optional.andThen (nodeTest.andThen (predicate inner).many)).map
    fun (axis, test, predicates) => .step axis test predicates

def step (inner : Parser true Expr) : Parser true Expr :=
  ((Parser.word "..").map (fun _ => .parent)).either <|
  ((Parser.word ".").map (fun _ => .current)).either (fullStep inner)

def chained (first : Expr) (more : List (Operator × Expr)) : Expr :=
  more.foldl (fun left (op, right) => .binary left op right) first

def steps (inner first : Parser true Expr) : Parser true Expr :=
  (first.andThen (stroke.andThen (step inner)).many).map fun (first, more) => chained first more

def relative (inner : Parser true Expr) : Parser true Expr := steps inner (step inner)

def absolute (inner : Parser true Expr) : Parser true Expr :=
  (stroke.andThen (relative inner).optional).map fun
    | (op, none) => .root (op = .descendantPath)
    | (op, some e) => .absolute (op = .descendantPath) e

def opensNext (cs : List Char) : Bool := (skipGap cs).head? = some '('

def isKindName (s : String) : Bool := NodeKind.all.any fun k => k.name = s

def call (inner : Parser true Expr) : Parser true Expr :=
  ((name.provided fun s rest => opensNext rest && !isKindName s).andThen
    (((Parser.char '(').padded.skipThen
      (inner.separated (Parser.char ',').padded)).thenSkip (Parser.char ')').padded)).map
    fun (name, args) => .call name args

def parenthesized (inner : Parser true Expr) : Parser true Expr :=
  ((((Parser.char '(').padded.skipThen inner).thenSkip (Parser.char ')').padded).andThen
    (predicate inner).many).map fun
    | (base, []) => base
    | (base, p :: predicates) => .filtered base (p :: predicates)

def primary (inner : Parser true Expr) : Parser true Expr :=
  number.either <| literal.either <| (call inner).either (parenthesized inner)

def path (inner : Parser true Expr) : Parser true Expr :=
  ((absolute inner).either <| (steps inner (primary inner)).either (relative inner)).padded

def operators (op : Parser true Operator) (operand : Parser true Expr) : Parser true Expr :=
  (operand.andThen (op.padded.andThen operand).many).map fun (first, more) => chained first more

def expression (inner : Parser true Expr) : Parser true Expr :=
  operators (logical .or) (operators (logical .and) (operators comparison (path inner)))

/-- Expressions with at most so many brackets and parentheses around one another; `base` would
read what is deeper. -/
def nested (base : Parser true Expr) : Nat → Parser true Expr
  | 0 => expression base
  | levels + 1 => expression (nested base levels)

end ElementLocator.XPath
