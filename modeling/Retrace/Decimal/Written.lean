import Retrace.Decimal.Shortest

/-!
How a double is written: positionally from 1e-5 up to but not including 1e16, with at least one
digit after the point; else with a signed exponent. Zero keeps its sign.
-/

namespace Retrace.Decimal

def zeros (n : Nat) : List Char := List.replicate n '0'

/-- `point` is the number of digits before the decimal point, zero or negative when the number
starts behind it. -/
def positional (digits : List Char) (point : Int) : List Char :=
  if 0 < point then
    if digits.length ≤ point.toNat then
      digits ++ zeros (point.toNat - digits.length) ++ ['.', '0']
    else digits.take point.toNat ++ ['.'] ++ digits.drop point.toNat
  else ['0', '.'] ++ zeros (-point).toNat ++ digits

def scientific (digits : List Char) (point : Int) : List Char :=
  let exponent := point - 1
  let tail := if digits.length ≤ 1 then [] else '.' :: digits.drop 1
  let sign := if exponent < 0 then '-' else '+'
  digits.take 1 ++ tail ++ ['e', sign] ++ Nat.toDigits 10 exponent.natAbs

def Double.unsignedText (d : Double) : List Char :=
  if d.mantissa = 0 then ['0', '.', '0']
  else
    let shortest := d.shortest
    let digits := Nat.toDigits 10 shortest.digits
    let point := shortest.exponent + digits.length
    if -5 < point ∧ point ≤ 16 then positional digits point else scientific digits point

def Double.text (d : Double) : List Char :=
  if d.isNegative then '-' :: d.unsignedText else d.unsignedText

end Retrace.Decimal
