import Retrace.Json.Reader
import Retrace.Json.Writer

/-!
Strings keep their characters when they are written and read: every escape is read as the character
that it stands for, and nothing else is escaped.
-/

namespace Retrace

namespace Document

theorem hexValue?_hexDigit {n : Nat} (h : n < 16) : hexValue? (Json.hexDigit n) = some n := by
  revert n
  decide

theorem ofUnit_toNat {c : Char} (h : c.toNat < 0x20) : Piece.ofUnit c.toNat = .char c := by
  have hs : ¬ (0xD800 ≤ c.toNat ∧ c.toNat < 0xE000) := by omega
  rw [Piece.ofUnit, if_neg hs, Char.ofNat_toNat]

/-- An escaped control character stands for itself. -/
theorem readPieces_hexEscape (done : List Piece) (rest : List Char) {c : Char}
    (h : c.toNat < 0x20) :
    readPieces done ('\\' :: 'u' :: '0' :: '0' :: Json.hexDigit (c.toNat / 16) ::
        Json.hexDigit (c.toNat % 16) :: rest) = readPieces (.char c :: done) rest := by
  have hunit : hexUnit? '0' '0' (Json.hexDigit (c.toNat / 16)) (Json.hexDigit (c.toNat % 16)) =
      some c.toNat := by
    have hz : hexValue? '0' = some 0 := by decide
    have hhigh := hexValue?_hexDigit (n := c.toNat / 16) (by omega)
    have hlow := hexValue?_hexDigit (n := c.toNat % 16) (by omega)
    simp only [hexUnit?, hz, hhigh, hlow, bind, Option.bind, pure, Option.some.injEq]
    omega
  rw [readPieces, hunit]
  simp only [ofUnit_toNat h]

/-- A character that needs no escape stands for itself. -/
theorem readPieces_plain (done : List Piece) (rest : List Char) {c : Char} (hq : c ≠ '"')
    (hb : c ≠ '\\') (h : ¬ c.toNat < 0x20) :
    readPieces done (c :: rest) = readPieces (.char c :: done) rest := by
  rw [readPieces]
  · rw [if_neg]
    rintro (hc | hc)
    · exact h hc
    · exact hb hc
  all_goals simp_all

theorem readPieces_escapeChar (done : List Piece) (c : Char) (rest : List Char) :
    readPieces done (Json.escapeChar c ++ rest) = readPieces (.char c :: done) rest := by
  unfold Json.escapeChar
  split
  case h_8 hq hb _ _ _ _ _ =>
      split
      · next h => exact readPieces_hexEscape done rest h
      · next h => exact readPieces_plain done rest hq hb h
  all_goals rfl

theorem readPieces_escape (done : List Piece) (text : List Char) (rest : List Char) :
    readPieces done (text.flatMap Json.escapeChar ++ '"' :: rest) =
      some (done.reverse ++ text.map .char, rest) := by
  induction text generalizing done with
  | nil => simp [readPieces]
  | cons c text ih =>
      rw [List.flatMap_cons, List.append_assoc, readPieces_escapeChar, ih]
      simp

theorem joinPieces_char (done text : List Char) :
    joinPieces done (text.map .char) = some (done.reverse ++ text) := by
  induction text generalizing done with
  | nil => simp [joinPieces]
  | cons c text ih => simp [joinPieces, ih]

theorem readString_escape (s : String) (rest : List Char) :
    readString (Json.escape s ++ '"' :: rest) = some (some s, rest) := by
  simp [readString, Json.escape, readPieces_escape, joinPieces_char]

end Document

end Retrace
