import ElementLocator.Text.Letter
/-! Decimal digits: writing a natural number, and reading naturals and signed integers. -/
namespace ElementLocator.Decimal
open ElementLocator.Text (isDigit)

def digit (n : Nat) : Char := Char.ofNat (48 + n)

def digits (n : Nat) : List Char :=
  if n < 10 then [digit n] else digits (n / 10) ++ [digit (n % 10)]

def digitsOfInt (n : Int) : List Char :=
  if n < 0 then '-' :: digits n.natAbs else digits n.natAbs

def digitValue (c : Char) : Nat := c.toNat - 48

def value (cs : List Char) : Nat := cs.foldl (fun high c => 10 * high + digitValue c) 0

def natural? (cs : List Char) : Option Nat :=
  if cs ≠ [] ∧ cs.all isDigit = true then some (value cs) else none

def unsigned? : List Char → Option Nat
  | '+' :: cs => natural? cs
  | cs => natural? cs

def signed? : List Char → Option Int
  | '-' :: cs => (natural? cs).map (fun n => -(n : Int))
  | cs => (unsigned? cs).map Int.ofNat

theorem valueOfDigit {n : Nat} (h : n < 10) : digitValue (digit n) = n := by
  have : n = 0 ∨ n = 1 ∨ n = 2 ∨ n = 3 ∨ n = 4 ∨ n = 5 ∨ n = 6 ∨ n = 7 ∨ n = 8 ∨ n = 9 := by omega
  rcases this with rfl | rfl | rfl | rfl | rfl | rfl | rfl | rfl | rfl | rfl <;> decide

theorem valueOfDigits (n : Nat) : value (digits n) = n := by
  induction n using digits.induct with
  | case1 n small =>
    rw [digits, if_pos small]
    simp [value, valueOfDigit small]
  | case2 n large ih =>
    rw [digits, if_neg large]
    simp only [value] at ih
    simp only [value, List.foldl_append, ih, List.foldl_cons, List.foldl_nil]
    rw [valueOfDigit (n := n % 10) (by omega)]
    omega

theorem digitIsDigit {n : Nat} (h : n < 10) : isDigit (digit n) = true := by
  have : n = 0 ∨ n = 1 ∨ n = 2 ∨ n = 3 ∨ n = 4 ∨ n = 5 ∨ n = 6 ∨ n = 7 ∨ n = 8 ∨ n = 9 := by omega
  rcases this with rfl | rfl | rfl | rfl | rfl | rfl | rfl | rfl | rfl | rfl <;> decide

theorem digitsAllDigits (n : Nat) : (digits n).all isDigit = true := by
  induction n using digits.induct with
  | case1 n small => rw [digits, if_pos small]; simp [digitIsDigit small]
  | case2 n large ih =>
    rw [digits, if_neg large, List.all_append, ih]
    simp [digitIsDigit (n := n % 10) (by omega)]

theorem digitsNonempty (n : Nat) : digits n ≠ [] := by
  rw [digits]; split <;> simp

end ElementLocator.Decimal
