import ElementLocator.Selector.Progress
/-! Reading one selector after another from the same tokens. -/
namespace ElementLocator.Selector
open ElementLocator.Text (byteLength)

structure Cursor where
  ahead : List Token
  last : Token
  spare : Nat

def Cursor.ofTokens (ts : List Token) : Cursor :=
  match ts.getLast? with
  | none => ⟨[], ⟨.ending, "", 0⟩, maxNesting⟩
  | some t =>
      if t.kind = .ending then ⟨ts.dropLast, t, maxNesting⟩
      else ⟨ts, ⟨.ending, "", t.offset + byteLength t.literal.toList⟩, maxNesting⟩

def Cursor.peek (c : Cursor) : Token := c.ahead.head?.getD c.last

def Cursor.atEnd (c : Cursor) : Bool := c.peek.kind = .ending

/-- Reads one selector. Whatever a failure leaves unfinished stays counted against the nesting
that later selectors may have. -/
def Cursor.next (c : Cursor) : Except SourceFault Selector × Cursor :=
  let stop := Progress.start.run c.spare c.last c.ahead
  (stop.outcome, ⟨stop.ahead, c.last, c.spare - stop.unfinished⟩)

end ElementLocator.Selector
