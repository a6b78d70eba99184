/-!
The order of lists by their first difference, as texts are ordered. In front of anything else,
parts that are equally long compare first.
-/

namespace Retrace.Text

variable {α : Type} [LT α]

/-- The first list comes before the second or is the same. -/
def UpTo (a b : List α) : Prop := a < b ∨ a = b

instance [DecidableEq α] [DecidableLT α] (a b : List α) : Decidable (UpTo a b) :=
  inferInstanceAs (Decidable (_ ∨ _))

theorem UpTo.refl (a : List α) : UpTo a a := .inr rfl

theorem upTo_cons_iff {a b : α} {as bs : List α} :
    UpTo (a :: as) (b :: bs) ↔ a < b ∨ a = b ∧ UpTo as bs := by
  unfold UpTo
  rw [List.cons_lt_cons_iff, List.cons.injEq, and_or_left, or_assoc]

theorem upTo_cons {c : α} {as bs : List α} (h : UpTo as bs) : UpTo (c :: as) (c :: bs) :=
  upTo_cons_iff.mpr (.inr ⟨rfl, h⟩)

variable {a b c d : List α}

theorem append_lt_append (hlen : a.length = b.length) (h : a < b) (c d : List α) :
    a ++ c < b ++ d := by
  induction a generalizing b with
  | nil =>
      rw [List.length_nil] at hlen
      rw [List.eq_nil_of_length_eq_zero hlen.symm] at h
      exact absurd h (List.not_lt_nil [])
  | cons x as ih =>
      cases b with
      | nil => cases hlen
      | cons y bs =>
          rw [List.cons_append, List.cons_append, List.cons_lt_cons_iff]
          rcases List.cons_lt_cons_iff.mp h with hxy | ⟨rfl, has⟩
          · exact .inl hxy
          · exact .inr ⟨rfl, ih (Nat.succ.inj hlen) has⟩

theorem append_lt_append_of_upTo (hlen : a.length = b.length) (h : UpTo a b) (hcd : c < d) :
    a ++ c < b ++ d := by
  rcases h with h | rfl
  · exact append_lt_append hlen h c d
  · exact List.append_left_lt hcd

theorem append_upTo_append (hlen : a.length = b.length) (h : a < b ∨ a = b ∧ UpTo c d) :
    UpTo (a ++ c) (b ++ d) := by
  rcases h with h | ⟨rfl, hcd | rfl⟩
  · exact .inl (append_lt_append hlen h c d)
  · exact .inl (List.append_left_lt hcd)
  · exact UpTo.refl _

end Retrace.Text
