import ElementLocator.Decimal.Binary64
/-! What a converter counts, in words of 64 bits that start again at zero after the greatest. -/
namespace ElementLocator
open ElementLocator.Decimal (Binary64 Magnitude)

structure Tally where
  total : UInt64
  succeeded : UInt64
  failed : UInt64
  deriving DecidableEq, Repr

instance countOfWord : Coe UInt64 Nat := ⟨UInt64.toNat⟩

namespace Tally

def zero : Tally := ⟨0, 0, 0⟩

def count (t : Tally) (success : Bool) : Tally :=
  if success then { t with total := t.total + 1, succeeded := t.succeeded + 1 }
  else { t with total := t.total + 1, failed := t.failed + 1 }

/- Both counts are rounded before they are divided. -/
def successRate (t : Tally) : Binary64 :=
  ⟨false, if t.total = 0 then .zero
    else (Magnitude.ofRatio t.succeeded 1).quotient (.ofRatio t.total 1)⟩

end Tally

end ElementLocator
