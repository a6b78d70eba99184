/-!
Sets of characters, given as ranges of code points in ascending order. The search stops at the
first range that starts above the character. A character is found if it is in a range at all,
because the ranges ascend.
-/

namespace Retrace.Text

/-- The ranges ascend from `least` on: none of them is empty, and between any two there is a code
point that is in neither. -/
def ascend : Nat → List (Nat × Nat) → Bool
  | _, [] => true
  | least, (first, last) :: rest =>
      Nat.ble least first && Nat.ble first last && ascend (last + 2) rest

/-- Maximal ranges of code points in ascending order, both ends included. -/
structure Ranges where
  toList : List (Nat × Nat)
  ascending : ascend 0 toList := by decide +kernel

namespace Ranges

def search : List (Nat × Nat) → Nat → Bool
  | [], _ => false
  | (first, last) :: rest, n =>
      if n < first then false else if n ≤ last then true else search rest n

def has (ranges : Ranges) (c : Char) : Bool := search ranges.toList c.toNat

variable {ranges : List (Nat × Nat)} {least n : Nat} {r : Nat × Nat}

theorem ascend_cons_iff : ascend least (r :: ranges) ↔
    least ≤ r.1 ∧ r.1 ≤ r.2 ∧ ascend (r.2 + 2) ranges := by
  rw [ascend, Bool.and_eq_true, Bool.and_eq_true, Nat.ble_eq, Nat.ble_eq, and_assoc]

theorem le_of_ascend (h : ascend least ranges) (hr : r ∈ ranges) : least ≤ r.1 := by
  induction ranges generalizing least with
  | nil => cases hr
  | cons s rest ih =>
      obtain ⟨hleast, hrange, hrest⟩ := ascend_cons_iff.mp h
      rcases List.mem_cons.mp hr with rfl | hr
      · exact hleast
      · have hlater := ih hrest hr
        omega

/-- In ranges that ascend the search finds what is in one of them. -/
theorem search_iff (h : ascend least ranges) :
    search ranges n ↔ ∃ r ∈ ranges, r.1 ≤ n ∧ n ≤ r.2 := by
  induction ranges generalizing least with
  | nil => simp [search]
  | cons s rest ih =>
      obtain ⟨-, hrange, hrest⟩ := ascend_cons_iff.mp h
      simp only [List.mem_cons, exists_eq_or_imp]
      rw [search]
      split
      · next hbelow =>
          -- The ranges that are left start above this one, so the character is in none of them.
          refine iff_of_false Bool.false_ne_true ?_
          rintro (⟨hfirst, -⟩ | ⟨r, hr, hfirst, -⟩)
          · omega
          · have hlater := le_of_ascend hrest hr
            omega
      · next hfirst =>
          split
          · next hlast => exact iff_of_true rfl (.inl ⟨Nat.le_of_not_lt hfirst, hlast⟩)
          · next hlast =>
              rw [ih hrest, or_iff_right fun ⟨_, hle⟩ => hlast hle]

theorem has_iff {ranges : Ranges} {c : Char} :
    ranges.has c ↔ ∃ r ∈ ranges.toList, r.1 ≤ c.toNat ∧ c.toNat ≤ r.2 :=
  search_iff ranges.ascending

end Ranges

end Retrace.Text
