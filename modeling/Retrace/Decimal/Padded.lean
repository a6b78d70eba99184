import Retrace.Decimal.Written

/-!
Natural numbers at a least width, filled up with zeros in front.
-/

namespace Retrace.Decimal

def padded (width n : Nat) : List Char :=
  zeros (width - (Nat.toDigits 10 n).length) ++ Nat.toDigits 10 n

theorem length_padded (width n : Nat) :
    (padded width n).length = max width (Nat.toDigits 10 n).length := by
  simp only [padded, zeros, List.length_append, List.length_replicate]
  omega

end Retrace.Decimal
