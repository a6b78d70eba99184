import Retrace.Decimal.Double

/-!
The shortest decimal digits that read back as a given double. A decimal reads back when it lies in
the interval of numbers that round to the double; the ends belong to it when the mantissa is even.
For each number of digits the two neighbours of the value on that grid are tested, and the nearer
of two hits is taken.
-/

namespace Retrace.Decimal

/-- A positive decimal: its digits as a number, times ten to `exponent`. -/
structure Digits where
  digits : Nat
  exponent : Int
deriving DecidableEq, Repr

def decimalLength (n : Nat) : Nat := (Nat.toDigits 10 n).length

/-- The numbers that round to a double, as integers over a common denominator. -/
structure RoundingInterval where
  low : Nat
  value : Nat
  high : Nat
  denominator : Nat
  closed : Bool

namespace RoundingInterval

/-- Quarters of the last place of the mantissa hold the ends of the interval. -/
def ofDouble (d : Double) : RoundingInterval :=
  let e := d.exponent - 2
  let up := Nat.pow 2 e.toNat
  { low := (4 * d.mantissa - if d.isLowerGapHalved then 1 else 2) * up
    value := 4 * d.mantissa * up
    high := (4 * d.mantissa + 2) * up
    denominator := Nat.pow 2 (-e).toNat
    closed := d.mantissa % 2 == 0 }

/-- The number `digits * 10 ^ exponent` is in the interval. -/
def has (i : RoundingInterval) (digits : Nat) (exponent : Int) : Bool :=
  let n := digits * i.denominator * Nat.pow 10 exponent.toNat
  let scaled := fun x => x * Nat.pow 10 (-exponent).toNat
  if i.closed then scaled i.low ≤ n && n ≤ scaled i.high
  else scaled i.low < n && n < scaled i.high

/-- The largest power of ten that is at most the value. -/
def magnitude (i : RoundingInterval) : Int :=
  let e : Int := decimalLength i.value - decimalLength i.denominator
  if i.denominator * Nat.pow 10 e.toNat ≤ i.value * Nat.pow 10 (-e).toNat then e else e - 1

/-- The decimal of the given exponent nearest to the value among those in the interval. -/
def nearest? (i : RoundingInterval) (exponent : Int) : Option Digits :=
  let numerator := i.value * Nat.pow 10 (-exponent).toNat
  let unit := i.denominator * Nat.pow 10 exponent.toNat
  let below := numerator / unit
  let rest := numerator % unit
  match i.has below exponent && 0 < below, i.has (below + 1) exponent with
  | true, true =>
      if 2 * rest < unit || (2 * rest == unit && below % 2 == 0) then some ⟨below, exponent⟩
      else some ⟨below + 1, exponent⟩
  | true, false => some ⟨below, exponent⟩
  | false, true => some ⟨below + 1, exponent⟩
  | false, false => none

end RoundingInterval

/-- Drops the zeros at the end of the digits, at most `fuel` of them. -/
def Digits.dropZeros : Nat → Digits → Digits
  | 0, d => d
  | fuel + 1, d =>
      if d.digits % 10 = 0 ∧ d.digits ≠ 0 then dropZeros fuel ⟨d.digits / 10, d.exponent + 1⟩
      else d

/-- The shortest digits of a finite double other than zero, without its sign. Seventeen digits
always suffice. -/
def Double.shortest (d : Double) : Digits :=
  let i := RoundingInterval.ofDouble d
  let found := (List.range 17).findSome? fun n => i.nearest? (i.magnitude - (n : Nat))
  (found.getD ⟨0, 0⟩).dropZeros 17

end Retrace.Decimal
