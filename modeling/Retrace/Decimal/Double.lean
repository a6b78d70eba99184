/-!
Doubles, kept as their bits so that two of them are equal exactly when they are the same number
with the same sign, and their exact value as an integer times a power of two.
-/

namespace Retrace.Decimal

structure Double where
  bits : UInt64
deriving DecidableEq, Repr, Inhabited

namespace Double

def ofFloat (x : Float) : Double := ⟨x.toBits⟩

def toFloat (d : Double) : Float := Float.ofBits d.bits

def isNegative (d : Double) : Bool := Nat.pow 2 63 ≤ d.bits.toNat

def exponentField (d : Double) : Nat := d.bits.toNat / Nat.pow 2 52 % Nat.pow 2 11

def fractionField (d : Double) : Nat := d.bits.toNat % Nat.pow 2 52

/-- The absolute value of a finite double is `mantissa * 2 ^ exponent`. -/
def mantissa (d : Double) : Nat :=
  if d.exponentField = 0 then d.fractionField else Nat.pow 2 52 + d.fractionField

def exponent (d : Double) : Int :=
  if d.exponentField = 0 then -1074 else (d.exponentField : Int) - 1075

/-- The double below is half as far away as the double above. -/
def isLowerGapHalved (d : Double) : Bool := d.fractionField == 0 && 1 < d.exponentField

/-- Ten to the given power, at most 308. -/
def powerOfTen (n : Nat) : Float := Float.ofScientific 1 false n

/-- `x` times ten to `exponent`, rounded once for each power of ten of at most 308 that is applied.
`none` where the product is beyond every double. -/
def scale (x : Float) (exponent : Int) : Option Float :=
  if 0 ≤ exponent then
    if exponent ≤ 308 then
      let product := x * powerOfTen exponent.toNat
      if product.isInf then none else some product
    else if x == 0 then some x else none
  else if -308 ≤ exponent then some (x / powerOfTen (-exponent).toNat)
  else if x == 0 then some x
  else scale (x / powerOfTen 308) (exponent + 308)
termination_by exponent.natAbs
decreasing_by omega

/-- The double read from decimal digits that fit 64 bits and an exponent: the digits are converted,
then scaled. This may miss the nearest double by a step. -/
def ofDecimal? (negative : Bool) (significand : Nat) (exponent : Int) : Option Double :=
  (scale (UInt64.ofNat significand).toFloat exponent).map fun x =>
    ofFloat (if negative then -x else x)

end Double

end Retrace.Decimal
