import ElementLocator.Decimal.Digits
/-! Double precision numbers as exact values. A finite number is a sign and mantissa · 2^exponent;
a quotient of naturals becomes the nearest such number, a half going to the even mantissa. -/
namespace ElementLocator.Decimal

inductive Magnitude where
  | finite (mantissa : Nat) (exponent : Int)
  | infinite
  deriving DecidableEq, Repr

structure Binary64 where
  negative : Bool
  magnitude : Magnitude
  deriving DecidableEq, Repr

def nearest (num den : Nat) : Nat :=
  let low := num / den
  let twice := 2 * (num % den)
  if twice < den then low
  else if den < twice then low + 1
  else if low % 2 = 0 then low
  else low + 1

def dividedBy (base : Nat) (exponent : Int) (num den : Nat) : Nat × Nat :=
  if 0 ≤ exponent then (num, den * base.pow exponent.toNat)
  else (num * base.pow (-exponent).toNat, den)

def binaryOrder (num den : Nat) : Int :=
  let k : Int := (num.log2 : Int) - (den.log2 : Int)
  let (n, d) := dividedBy 2 k num den
  if n < d then k - 1 else k

def leastNormal : Nat := 4503599627370496

def lowestExponent : Int := -1074

def highestExponent : Int := 971

def Magnitude.zero : Magnitude := .finite 0 lowestExponent

/- Rounding can carry into the next power of two, whose mantissa is then the least
normal one with the exponent raised by one. -/
def Magnitude.ofRatio (num den : Nat) : Magnitude :=
  if num = 0 then .zero
  else
    let exponent := max (binaryOrder num den - 52) lowestExponent
    let (n, d) := dividedBy 2 exponent num den
    let mantissa := nearest n d
    let (mantissa, exponent) :=
      if mantissa = 2 * leastNormal then (leastNormal, exponent + 1) else (mantissa, exponent)
    if highestExponent < exponent then .infinite else .finite mantissa exponent

/- The two outer cases are decided by the order of magnitude alone, so that a long
exponent costs nothing. -/
def Magnitude.ofDecimal (coefficient : Nat) (exponent : Int) : Magnitude :=
  let order : Int := (digits coefficient).length + exponent
  if coefficient = 0 ∨ order < -330 then .zero
  else if 310 < order then .infinite
  else
    let (num, den) := dividedBy 10 (-exponent) coefficient 1
    .ofRatio num den

def Magnitude.ratio : Magnitude → Nat × Nat
  | .finite mantissa exponent => dividedBy 2 (-exponent) mantissa 1
  | .infinite => (0, 1)

/- For finite numbers of which the second is not zero. -/
def Magnitude.quotient (x y : Magnitude) : Magnitude :=
  let (a, b) := x.ratio
  let (c, d) := y.ratio
  .ofRatio (a * d) (b * c)

def Magnitude.natural? : Magnitude → Option Nat
  | .infinite => none
  | .finite mantissa exponent =>
      let (num, den) := Magnitude.ratio (.finite mantissa exponent)
      if num % den = 0 then some (num / den) else none

def Magnitude.bits : Magnitude → Nat
  | .infinite => 2047 * leastNormal
  | .finite mantissa exponent =>
      if mantissa < leastNormal then mantissa
      else (exponent - lowestExponent + 1).toNat * leastNormal + (mantissa - leastNormal)

def Binary64.bits (x : Binary64) : Nat :=
  (if x.negative then 2048 * leastNormal else 0) + x.magnitude.bits

end ElementLocator.Decimal
