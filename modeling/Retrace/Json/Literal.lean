import Retrace.Json.Basic

/-!
Number literals. The digits of a literal are read as a number of 64 bits as far as they fit; later
digits only move the decimal point. An integer that fits stays an integer.
-/

namespace Retrace

open Decimal

structure NumberLiteral where
  negative : Bool
  whole : List Nat
  /-- The digits after the point, where there is one. -/
  fraction : Option (List Nat)
  exponent : Option Int
deriving DecidableEq, Repr

namespace NumberLiteral

def fits (significand digit : Nat) : Bool := significand * 10 + digit < Nat.pow 2 64

/-- The significand of the digits that fit, and the number of digits left out. -/
def foldWhole : Nat → List Nat → Nat × Nat
  | significand, [] => (significand, 0)
  | significand, digit :: rest =>
      if fits significand digit then foldWhole (significand * 10 + digit) rest
      else (significand, rest.length + 1)

/-- The significand with the digits that fit, and the number of digits taken. -/
def foldFraction : Nat → List Nat → Nat × Nat
  | significand, [] => (significand, 0)
  | significand, digit :: rest =>
      if fits significand digit then
        let (s, taken) := foldFraction (significand * 10 + digit) rest
        (s, taken + 1)
      else (significand, 0)

/-- The number that the literal stands for, `none` beyond the range of doubles. -/
def number? (l : NumberLiteral) : Option Number :=
  let (whole, left) := foldWhole 0 l.whole
  match l.fraction, l.exponent with
  | none, none =>
      if left = 0 ∧ ¬ l.negative then some (.integer whole)
      else if left = 0 ∧ 0 < whole ∧ whole ≤ Nat.pow 2 63 then some (.integer (-whole))
      else (Double.ofDecimal? l.negative whole left).map .double
  | fraction, exponent =>
      let (significand, taken) := foldFraction whole (fraction.getD [])
      (Double.ofDecimal? l.negative significand (left - taken + exponent.getD 0)).map .double

end NumberLiteral

end Retrace
