import Retrace.Json.Reader
import Retrace.Json.Writer

/-!
Integers of 64 bits are read as they are written, whatever follows them, as long as it cannot go on
with the number.
-/

namespace Retrace

namespace Document

/-- The text does not start with anything that a number could go on with. -/
def EndsNumber (text : List Char) : Prop :=
  ∀ c, text.head? = some c → c.isDigit = false ∧ c ≠ '.' ∧ c ≠ 'e' ∧ c ≠ 'E'

theorem endsNumber_nil : EndsNumber [] := nofun

theorem endsNumber_cons {c : Char} (text : List Char)
    (h : c.isDigit = false ∧ c ≠ '.' ∧ c ≠ 'e' ∧ c ≠ 'E') : EndsNumber (c :: text) :=
  fun _ hd => Option.some.inj hd ▸ h

theorem takeDigits_append {digits text : List Char} (hd : ∀ c ∈ digits, c.isDigit)
    (ht : EndsNumber text) : takeDigits (digits ++ text) = (digits.map digitValue, text) := by
  rw [takeDigits, List.takeWhile_append_of_pos hd, List.dropWhile_append_of_pos hd]
  cases text with
  | nil => simp
  | cons c rest =>
      have hc := (ht c rfl).1
      simp [hc]

theorem readFraction_of_endsNumber {text : List Char} (h : EndsNumber text) :
    readFraction text = some (none, text) := by
  cases text with
  | nil => rfl
  | cons c rest =>
      have hc := (h c rfl).2.1
      unfold readFraction
      split
      · next heq =>
          cases heq
          exact absurd rfl hc
      · rfl

theorem readExponent_of_endsNumber {text : List Char} (h : EndsNumber text) :
    readExponent text = some (none, text) := by
  cases text with
  | nil => rfl
  | cons c rest =>
      obtain ⟨-, -, he, hE⟩ := h c rfl
      simp [readExponent, he, hE]

end Document

open Document

theorem digitValue_digitChar {d : Nat} (h : d < 10) : digitValue d.digitChar = d := by
  rw [digitValue]
  exact Nat.toNat_digitChar_sub_48_of_lt_ten h

/-- The decimal digits of a number as numbers. -/
def decimalDigits (n : Nat) : List Nat := (Nat.toDigits 10 n).map digitValue

theorem decimalDigits_of_lt {n : Nat} (h : n < 10) : decimalDigits n = [n] := by
  rw [decimalDigits, Nat.toDigits_of_lt_base h, List.map_singleton, digitValue_digitChar h]

theorem decimalDigits_of_le {n : Nat} (h : 10 ≤ n) :
    decimalDigits n = decimalDigits (n / 10) ++ [n % 10] := by
  have hd : n % 10 < 10 := Nat.mod_lt n (by decide)
  rw [decimalDigits, Nat.toDigits_of_base_le (by decide) h, List.map_append, List.map_singleton,
    digitValue_digitChar hd, decimalDigits]

/-- Only zero starts with a zero. -/
theorem head?_decimalDigits {n : Nat} (h : 0 < n) : (decimalDigits n).head? ≠ some 0 := by
  induction n using Nat.strongRecOn with
  | ind n ih =>
      by_cases hn : n < 10
      · rw [decimalDigits_of_lt hn]
        simp only [List.head?_cons, ne_eq, Option.some.injEq]
        omega
      · have hih := ih (n / 10) (by omega) (by omega)
        rw [decimalDigits_of_le (by omega), List.head?_append]
        cases hd : (decimalDigits (n / 10)).head? with
        | none => simp [decimalDigits] at hd
        | some d =>
            rw [hd] at hih
            simpa using hih

namespace NumberLiteral

theorem foldWhole_append (s : Nat) {digits : List Nat} (d : Nat) {whole : Nat}
    (h : foldWhole s digits = (whole, 0)) (hd : whole * 10 + d < Nat.pow 2 64) :
    foldWhole s (digits ++ [d]) = (whole * 10 + d, 0) := by
  induction digits generalizing s with
  | nil =>
      cases h
      simp [foldWhole, fits, hd]
  | cons e rest ih =>
      rw [List.cons_append, foldWhole]
      rw [foldWhole] at h
      split at h
      · next hf =>
          rw [if_pos hf]
          exact ih _ h
      · next hf => cases h

theorem foldWhole_decimalDigits {n : Nat} (h : n < Nat.pow 2 64) :
    foldWhole 0 (decimalDigits n) = (n, 0) := by
  induction n using Nat.strongRecOn with
  | ind n ih =>
      by_cases hn : n < 10
      · rw [decimalDigits_of_lt hn]
        simp [foldWhole, fits, h]
      · have hih := ih (n / 10) (by omega) (by omega)
        have hs : n / 10 * 10 + n % 10 = n := by omega
        rw [decimalDigits_of_le (by omega)]
        have := foldWhole_append 0 (n % 10) hih (by rw [hs]; exact h)
        rwa [hs] at this

end NumberLiteral

namespace Document

theorem readWhole_toDigits (n : Nat) {text : List Char} (h : EndsNumber text) :
    readWhole (Nat.toDigits 10 n ++ text) = some (decimalDigits n, text) := by
  have hdigits : ∀ c ∈ Nat.toDigits 10 n, c.isDigit := fun c hc =>
    Nat.isDigit_of_mem_toDigits (by decide) (by decide) hc
  have htake : takeDigits (Nat.toDigits 10 n ++ text) = (decimalDigits n, text) :=
    takeDigits_append hdigits h
  unfold readWhole
  rw [htake]
  split
  · next heq =>
      have hnil : decimalDigits n = [] := congrArg Prod.fst heq
      simp [decimalDigits] at hnil
  · next d rest _ heq =>
      have hzero : decimalDigits n = 0 :: d :: rest := congrArg Prod.fst heq
      by_cases hn : n < 10
      · rw [decimalDigits_of_lt hn] at hzero
        cases hzero
      · have := head?_decimalDigits (n := n) (by omega)
        rw [hzero] at this
        exact absurd rfl this
  · rfl

theorem readNumber_toDigits (negative : Bool) (n : Nat) {text : List Char}
    (h : EndsNumber text) :
    readNumber negative (Nat.toDigits 10 n ++ text) =
      some (.number (NumberLiteral.number? ⟨negative, decimalDigits n, none, none⟩), text) := by
  simp [readNumber, readWhole_toDigits n h, readFraction_of_endsNumber h,
    readExponent_of_endsNumber h]

/-- A number that is not negative. -/
theorem readNumber_natural {n : Nat} (hn : n < Nat.pow 2 64) {text : List Char}
    (h : EndsNumber text) :
    readNumber false (Nat.toDigits 10 n ++ text) = some (.number (some (.integer n)), text) := by
  rw [readNumber_toDigits false n h]
  simp [NumberLiteral.number?, NumberLiteral.foldWhole_decimalDigits hn]

/-- The digits of a negative number, after its sign. -/
theorem readNumber_negative {n : Nat} (hp : 0 < n) (hn : n ≤ Nat.pow 2 63) {text : List Char}
    (h : EndsNumber text) :
    readNumber true (Nat.toDigits 10 n ++ text) =
      some (.number (some (.integer (-(n : Int)))), text) := by
  have hlt : n < Nat.pow 2 64 := Nat.lt_of_le_of_lt hn (by decide)
  rw [readNumber_toDigits true n h]
  simp [NumberLiteral.number?, NumberLiteral.foldWhole_decimalDigits hlt, hp, hn]

end Document

end Retrace
