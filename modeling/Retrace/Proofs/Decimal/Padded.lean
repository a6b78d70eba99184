import Retrace.Decimal.Padded
import Retrace.Proofs.Text.Order

/-!
Padded numbers in the order of text: of two that are equally long the smaller number comes first, so
different numbers are never written alike.
-/

namespace Retrace.Decimal

open Text

theorem digitChar_lt {m n : Nat} (hn : n < 10) (h : m < n) : m.digitChar < n.digitChar := by
  rw [Char.lt_def, UInt32.lt_iff_toNat_lt]
  have hm := Nat.toNat_digitChar_of_lt_ten (Nat.lt_trans h hn)
  have hn := Nat.toNat_digitChar_of_lt_ten hn
  rw [Char.toNat] at hm hn
  omega

theorem padded_succ {width : Nat} (hw : 0 < width) (n : Nat) :
    padded (width + 1) n = padded width (n / 10) ++ [(n % 10).digitChar] := by
  rcases Nat.lt_or_ge n 10 with hn | hn
  · have hdiv : n / 10 = 0 := Nat.div_eq_of_lt hn
    obtain ⟨k, rfl⟩ := Nat.exists_eq_add_one_of_ne_zero (Nat.ne_of_gt hw)
    rw [padded, padded, hdiv, Nat.toDigits_of_lt_base hn, Nat.toDigits_of_lt_base (by decide),
      Nat.mod_eq_of_lt hn]
    simp [zeros, List.replicate_succ']
  · rw [padded, padded, Nat.toDigits_of_base_le (by decide) hn, List.length_append,
      List.length_singleton, Nat.add_sub_add_right, List.append_assoc]

theorem length_padded_of_lt {width n : Nat} (hw : 0 < width) (hn : n < Nat.pow 10 width) :
    (padded width n).length = width := by
  have hlen := (Nat.length_toDigits_le_iff (by decide) hw).mpr hn
  rw [length_padded]
  omega

theorem padded_lt_padded_of_lt {width m n : Nat} (hn : n < Nat.pow 10 (width + 1))
    (h : m < n) : padded (width + 1) m < padded (width + 1) n := by
  induction width generalizing m n with
  | zero =>
      have hm := Nat.lt_trans h hn
      change n < 10 at hn
      change m < 10 at hm
      rw [padded, padded, Nat.toDigits_of_lt_base hn, Nat.toDigits_of_lt_base hm]
      exact List.cons_lt_cons_iff.mpr (.inl (digitChar_lt hn h))
  | succ width ih =>
      have hn' : n / 10 < Nat.pow 10 (width + 1) := Nat.div_lt_of_lt_mul (Nat.mul_comm .. ▸ hn)
      rw [padded_succ (Nat.succ_pos width), padded_succ (Nat.succ_pos width)]
      rcases Nat.lt_or_ge (m / 10) (n / 10) with hlt | hge
      · have hm' := Nat.lt_trans hlt hn'
        have hlen : (padded (width + 1) (m / 10)).length =
            (padded (width + 1) (n / 10)).length := by
          rw [length_padded_of_lt (Nat.succ_pos width) hm',
            length_padded_of_lt (Nat.succ_pos width) hn']
        exact append_lt_append hlen (ih hn' hlt) _ _
      · have hdiv : m / 10 = n / 10 := by omega
        rw [hdiv]
        apply List.append_left_lt
        exact List.cons_lt_cons_iff.mpr (.inl (digitChar_lt (by omega) (by omega)))

theorem padded_length (width n : Nat) : padded (padded width n).length n = padded width n := by
  have hsub : max width (Nat.toDigits 10 n).length - (Nat.toDigits 10 n).length =
      width - (Nat.toDigits 10 n).length := by omega
  rw [length_padded, padded, padded, hsub]

theorem padded_lt_padded {width m n : Nat}
    (hlen : (padded width m).length = (padded width n).length) (h : m < n) :
    padded width m < padded width n := by
  have hpos : 0 < (Nat.toDigits 10 n).length := List.length_pos_iff.mpr Nat.toDigits_ne_nil
  have hle : (Nat.toDigits 10 n).length ≤ (padded width n).length := by
    rw [length_padded]
    omega
  obtain ⟨k, hk⟩ := Nat.exists_eq_add_one_of_ne_zero (Nat.ne_of_gt (Nat.lt_of_lt_of_le hpos hle))
  rw [hk] at hle
  have hn := (Nat.length_toDigits_le_iff (by decide) (Nat.succ_pos k)).mp hle
  rw [← padded_length width m, ← padded_length width n, hlen, hk]
  exact padded_lt_padded_of_lt hn h

theorem padded_injective {width m n : Nat} (h : padded width m = padded width n) : m = n := by
  rcases Nat.lt_trichotomy m n with hlt | heq | hgt
  · have hless := padded_lt_padded (congrArg List.length h) hlt
    rw [h] at hless
    exact absurd hless (List.lt_irrefl _)
  · exact heq
  · have hless := padded_lt_padded (congrArg List.length h.symm) hgt
    rw [h] at hless
    exact absurd hless (List.lt_irrefl _)

theorem isDigit_of_mem_padded {width n : Nat} {c : Char} (h : c ∈ padded width n) :
    c.isDigit = true := by
  rcases List.mem_append.mp h with hzero | hdigit
  · obtain rfl := List.eq_of_mem_replicate hzero
    rfl
  · exact Nat.isDigit_of_mem_toDigits (by decide) (by decide) hdigit

/-- Numbers of one width in front of the rest of a text compare first. -/
theorem padded_upTo {width m n : Nat} {c d : List Char}
    (hlen : (padded width m).length = (padded width n).length) (h : m < n ∨ m = n ∧ UpTo c d) :
    UpTo (padded width m ++ c) (padded width n ++ d) :=
  append_upTo_append hlen
    (h.imp (padded_lt_padded hlen) fun ⟨heq, hcd⟩ => ⟨congrArg (padded width) heq, hcd⟩)

end Retrace.Decimal
