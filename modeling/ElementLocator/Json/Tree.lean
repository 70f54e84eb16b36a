import ElementLocator.Json.Value
import ElementLocator.Decimal.Digits
/-! JSON text as it was written: numbers by their digits, repeated keys, and the mark of a string
that no sequence of characters can stand for, because it escapes half of a surrogate pair. What a
reader makes of these is a second step. -/
namespace ElementLocator.Json
open ElementLocator.Decimal (Magnitude value)

structure Numeral where
  negative : Bool
  whole : List Char
  fraction : List Char
  exponent : Option Int
  deriving DecidableEq, Repr

inductive Tree where
  | null
  | bool (b : Bool)
  | number (n : Numeral)
  | string (s : Option String)
  | array (items : List Tree)
  | object (fields : List (Option String × Tree))
  deriving Repr

/-- Without fraction and exponent, and in the range of 64 bits with or without sign, a number is
an integer; any other is the nearest double, if there is one. A zero with a minus sign is no
integer. -/
def Numeral.value? (n : Numeral) : Option Value :=
  let count : Int := value n.whole
  let signed : Int := if n.negative then -count else count
  if n.fraction = [] ∧ n.exponent = none ∧ -9223372036854775808 ≤ signed ∧
      signed < UInt64.size ∧
      (n.negative = false ∨ count ≠ 0) then
    some (.int signed)
  else
    match Magnitude.ofDecimal (value (n.whole ++ n.fraction))
        (n.exponent.getD 0 - n.fraction.length) with
    | .infinite => none
    | size => some (.float ⟨n.negative, size⟩)

mutual
def Tree.value? : Tree → Option Value
  | .null => some .null
  | .bool b => some (.bool b)
  | .number n => n.value?
  | .string s => s.map .str
  | .array items => (itemValues? items).map .arr
  | .object fields => (fieldValues? fields).map .obj

def itemValues? : List Tree → Option (List Value)
  | [] => some []
  | t :: rest => do
      let v ← t.value?
      let vs ← itemValues? rest
      some (v :: vs)

def fieldValues? : List (Option String × Tree) → Option (List (String × Value))
  | [] => some []
  | (key, t) :: rest => do
      let key ← key
      let v ← t.value?
      let vs ← fieldValues? rest
      some ((key, v) :: vs)
end

end ElementLocator.Json
