import ElementLocator.Decimal.Binary64
/-! The shortest decimal that reads back as a given double precision number, and its layout as text.
Among decimals of the least length that read back, the one nearest to the number is taken. -/
namespace ElementLocator.Decimal

structure Form where
  coefficient : Nat
  exponent : Int
  deriving DecidableEq, Repr

inductive Tie where
  | up
  | even
  deriving DecidableEq, Repr

def Form.reads (f : Form) (x : Magnitude) : Bool :=
  Magnitude.ofDecimal f.coefficient f.exponent = x

def decimalOrder (num den : Nat) : Int :=
  let k : Int := (digits num).length - (digits den).length
  let (n, d) := dividedBy 10 k num den
  if n < d then k else k + 1

def neighbours (tie : Tie) (num den : Nat) (exponent : Int) : Form × Form :=
  let (n, d) := dividedBy 10 exponent num den
  let low : Form := ⟨n / d, exponent⟩
  let high : Form := ⟨n / d + 1, exponent⟩
  let twice := 2 * (n % d)
  let lowFirst := twice < d || twice = d && tie = .even && n / d % 2 = 0
  if lowFirst then (low, high) else (high, low)

def search (tie : Tie) (x : Magnitude) (num den : Nat) (exponent : Int) : Nat → Form
  | 0 => (neighbours tie num den exponent).1
  | finer + 1 =>
      let (near, far) := neighbours tie num den exponent
      if near.reads x then near
      else if far.reads x then far
      else search tie x num den (exponent - 1) finer

def stripped (coefficient : Nat) (exponent : Int) : Form :=
  if h : coefficient ≠ 0 ∧ coefficient % 10 = 0 then stripped (coefficient / 10) (exponent + 1)
  else ⟨coefficient, exponent⟩
termination_by coefficient
decreasing_by omega

/- Seventeen significant digits always suffice, so sixteen finer grids follow the first. -/
def shortest (tie : Tie) (x : Magnitude) : Form :=
  let (num, den) := x.ratio
  if num = 0 then ⟨0, 0⟩
  else
    let found := search tie x num den (decimalOrder num den - 1) 16
    stripped found.coefficient found.exponent

/-- How numbers are written: what marks a whole number, for which orders of magnitude no
exponent is used, how ties go, and the word for infinity. -/
structure Layout where
  wholeMark : List Char
  positional : Int → Bool
  tie : Tie
  infinity : List Char

def zeros (n : Nat) : List Char := List.replicate n '0'

def Layout.place (layout : Layout) (ds : List Char) (exponent : Int) : List Char :=
  let point : Int := ds.length + exponent
  if 0 ≤ exponent then ds ++ zeros exponent.toNat ++ layout.wholeMark
  else if 0 < point then ds.take point.toNat ++ '.' :: ds.drop point.toNat
  else '0' :: '.' :: zeros (-point).toNat ++ ds

def scientific (ds : List Char) (order : Int) : List Char :=
  let fraction := match ds with
    | [] => []
    | [d] => [d]
    | d :: rest => d :: '.' :: rest
  let sign := if order < 0 then '-' else '+'
  fraction ++ 'e' :: sign :: digits order.natAbs

def Layout.magnitude (layout : Layout) : Magnitude → List Char
  | .infinite => layout.infinity
  | .finite mantissa exponent =>
      let form := shortest layout.tie (.finite mantissa exponent)
      let ds := digits form.coefficient
      let order : Int := ds.length + form.exponent - 1
      if form.coefficient = 0 then '0' :: layout.wholeMark
      else if layout.positional order then layout.place ds form.exponent
      else scientific ds order

def Layout.write (layout : Layout) (x : Binary64) : List Char :=
  if x.negative then '-' :: layout.magnitude x.magnitude else layout.magnitude x.magnitude

end ElementLocator.Decimal
