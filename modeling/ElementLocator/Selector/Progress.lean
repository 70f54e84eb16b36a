import ElementLocator.Selector.Basic
import ElementLocator.Selector.Tokens
/-! Reading selectors from tokens.

    selector := ["new" "UiSelector" "(" ")"] call* [";"]
    call     := "." name "(" [arg] ")"
    arg      := string | number | true | false | name | "new" "UiSelector" "(" ")" call*

The reader takes one token at a time and keeps the unfinished selectors around the present one on
a stack. -/
namespace ElementLocator.Selector
open ElementLocator.Decimal (signed?)

def maxNesting : Nat := 256

structure Frame where
  before : List Call
  name : String

inductive Phase where
  | start
  | new
  | uiSelector
  | opened
  | chain
  | dot
  | name (name : String)
  | argument (name : String)
  | argumentRead (name : String) (arg : Arg)

structure Progress where
  calls : List Call
  frames : List Frame
  phase : Phase

def Progress.start : Progress := ⟨[], [], .start⟩

def Progress.selector (p : Progress) : Selector := .mk p.calls.reverse

def int64? (literal : String) : Option Int64 :=
  match signed? literal.toList with
  | some n =>
      if -9223372036854775808 ≤ n ∧ n ≤ 9223372036854775807 then some (Int64.ofInt n) else none
  | none => none

def Token.arg? (t : Token) : Option Arg :=
  match t.kind with
  | .string => some (.str t.literal)
  | .yes => some (.bool true)
  | .no => some (.bool false)
  | .name => some (.ident t.literal)
  | .number => (int64? t.literal).map .int
  | _ => none

/-- Takes a token that can come next. Another selector may open while there are fewer than `spare`
around the present one. -/
def Progress.take? (spare : Nat) (p : Progress) (t : Token) : Option Progress :=
  match p.phase, t.kind with
  | .start, .new => some { p with phase := .new }
  | .start, .dot => some { p with phase := .dot }
  | .new, .uiSelector => some { p with phase := .uiSelector }
  | .uiSelector, .opening => some { p with phase := .opened }
  | .opened, .closing => some { p with phase := .chain }
  | .chain, .dot => some { p with phase := .dot }
  | .chain, .closing =>
      match p.frames with
      | [] => none
      | frame :: frames =>
          some ⟨.mk frame.name [.nested p.selector] :: frame.before, frames, .chain⟩
  | .dot, .name => some { p with phase := .name t.literal }
  | .name name, .opening => some { p with phase := .argument name }
  | .argument name, .closing => some { p with calls := .mk name [] :: p.calls, phase := .chain }
  | .argument name, .new =>
      if p.frames.length < spare then some ⟨[], ⟨p.calls, name⟩ :: p.frames, .new⟩ else none
  | .argument name, _ => t.arg?.map fun arg => { p with phase := .argumentRead name arg }
  | .argumentRead name arg, .closing =>
      some { p with calls := .mk name [arg] :: p.calls, phase := .chain }
  | _, _ => none

def Progress.outcome (p : Progress) (t : Token) : Except SourceFault Selector :=
  let expected kind := .error (.parse (.expected kind t) t.offset)
  match p.phase with
  | .start => .ok p.selector
  | .chain =>
      match p.frames with
      | [] => .ok p.selector
      | _ :: _ => expected .closing
  | .new => expected .uiSelector
  | .uiSelector => expected .opening
  | .opened => expected .closing
  | .dot => expected .name
  | .name _ => expected .opening
  | .argument _ =>
      match t.kind with
      | .number => .error (.parse (.integerOutOfRange t.literal) t.offset)
      | .new => .error (.parse (.tooNested maxNesting) t.offset)
      | _ => .error (.parse (.unexpectedArgument t) t.offset)
  | .argumentRead _ _ => expected .closing

/- A number out of range has been read when its size is found wrong, and the semicolon
belongs to the selector before it. Every other token that cannot be taken is left. -/
def Progress.swallows (p : Progress) (t : Token) : Bool :=
  match p.phase with
  | .start => t.kind = .semicolon
  | .chain => p.frames.isEmpty && t.kind = .semicolon
  | .argument _ => t.kind = .number
  | _ => false

def Progress.unfinished (p : Progress) : Nat :=
  match p.phase with
  | .chain => p.frames.length - 1
  | _ => p.frames.length

structure Stop where
  outcome : Except SourceFault Selector
  ahead : List Token
  unfinished : Nat

def Progress.run (spare : Nat) (last : Token) (p : Progress) : List Token → Stop
  | [] => ⟨p.outcome last, [], p.unfinished⟩
  | t :: rest =>
      match p.take? spare t with
      | some next => next.run spare last rest
      | none => ⟨p.outcome t, if p.swallows t then rest else t :: rest, p.unfinished⟩

end ElementLocator.Selector
