import Mathlib.Data.List.TakeWhile

/-!
The successive occurrences of a pattern in a text: the leftmost one, then the leftmost one in what
follows it, and so on. A pattern says how the things that it stands for are written. What stands
between two marks is read up to the first closing one.
-/

namespace Retrace.Text

section Mark

variable {mark : Char} {text before rest : List Char}

theorem notMem_takeWhile_ne (mark : Char) (text : List Char) :
    mark ∉ text.takeWhile (· != mark) := by
  intro hmark
  have hne := List.mem_takeWhile_imp hmark
  rw [bne_self_eq_false] at hne
  cases hne

theorem eq_append_of_dropWhile_ne {c : Char} (h : text.dropWhile (· != mark) = c :: rest) :
    text = text.takeWhile (· != mark) ++ mark :: rest := by
  have hc : c = mark := by
    have hhead := List.head?_dropWhile_not (· != mark) text
    rw [h] at hhead
    simpa using hhead
  subst hc
  rw [← h, List.takeWhile_append_dropWhile]

theorem takeWhile_dropWhile_ne (h : mark ∉ before) (rest : List Char) :
    (before ++ mark :: rest).takeWhile (· != mark) = before ∧
      (before ++ mark :: rest).dropWhile (· != mark) = mark :: rest := by
  have hbefore : ∀ c ∈ before, (c != mark) = true := by
    intro c hc
    rw [bne_iff_ne]
    rintro rfl
    exact h hc
  rw [List.takeWhile_append_of_pos hbefore, List.dropWhile_append_of_pos hbefore]
  simp

end Mark

variable {α : Type} (Written : α → List Char → Prop)

/-- After `front` the text goes on with `a` as it is written, and then with `rest`. -/
def Occurs (text front : List Char) (a : α) (rest : List Char) : Prop :=
  ∃ written, Written a written ∧ text = front ++ (written ++ rest)

/-- The text is cut at its successive occurrences. Each piece is what stands before an occurrence,
with what occurs there, and `last` is what follows the last one. -/
inductive Cut : List Char → List (List Char × α) → List Char → Prop
  | last {text : List Char} (hnone : ∀ front a rest, ¬ Occurs Written text front a rest) :
      Cut text [] text
  | next {text front rest last : List Char} {a : α} {pieces : List (List Char × α)}
      (hoccurs : Occurs Written text front a rest)
      (hfirst : ∀ front' a' rest', Occurs Written text front' a' rest' →
        front.length ≤ front'.length)
      (hrest : Cut rest pieces last) : Cut text ((front, a) :: pieces) last

/-- Where a text begins with an occurrence, what occurs and what follows it are determined. -/
def Unambiguous : Prop :=
  ∀ text a b rest rest', Occurs Written text [] a rest → Occurs Written text [] b rest' →
    a = b ∧ rest = rest'

/-- What is left of a text without its occurrences. -/
def outside (pieces : List (List Char × α)) (last : List Char) : List Char :=
  pieces.flatMap Prod.fst ++ last

variable {Written} {text front rest last : List Char} {a : α} {pieces : List (List Char × α)}

theorem occurs_cons_iff {c d : Char} :
    Occurs Written (c :: text) (d :: front) a rest ↔ c = d ∧ Occurs Written text front a rest := by
  simp only [Occurs, List.cons_append, List.cons.injEq]
  constructor
  · rintro ⟨written, hwritten, rfl, htext⟩
    exact ⟨rfl, written, hwritten, htext⟩
  · rintro ⟨rfl, written, hwritten, htext⟩
    exact ⟨written, hwritten, rfl, htext⟩

namespace Cut

/-- There is one way to cut a text. -/
theorem unique (hpattern : Unambiguous Written) {pieces' : List (List Char × α)}
    {last' : List Char} (h : Cut Written text pieces last) (h' : Cut Written text pieces' last') :
    pieces' = pieces ∧ last' = last := by
  induction h generalizing pieces' last' with
  | last hnone =>
      cases h' with
      | last => exact ⟨rfl, rfl⟩
      | next hoccurs => exact absurd hoccurs (hnone _ _ _)
  | @next text front rest last a pieces hoccurs hfirst _ ih =>
      cases h' with
      | last hnone => exact absurd hoccurs (hnone _ _ _)
      | @next _ front' rest' _ a' pieces' hoccurs' hfirst' hrest' =>
          have hlength : front.length = front'.length :=
            Nat.le_antisymm (hfirst _ _ _ hoccurs') (hfirst' _ _ _ hoccurs)
          obtain ⟨written, hwritten, rfl⟩ := hoccurs
          obtain ⟨written', hwritten', heq⟩ := hoccurs'
          obtain ⟨rfl, htail⟩ := List.append_inj heq hlength
          obtain ⟨rfl, rfl⟩ := hpattern (written ++ rest) a a' rest rest'
            ⟨written, hwritten, rfl⟩ ⟨written', hwritten', htail⟩
          obtain ⟨rfl, rfl⟩ := ih hrest'
          exact ⟨rfl, rfl⟩

theorem start (hoccurs : Occurs Written text [] a rest) (hrest : Cut Written rest pieces last) :
    Cut Written text (([], a) :: pieces) last :=
  .next hoccurs (fun _ _ _ _ => Nat.zero_le _) hrest

/-- A character that begins no occurrence is left outside of them. -/
theorem skip {c : Char} (hnot : ∀ a rest, ¬ Occurs Written (c :: text) [] a rest)
    (h : Cut Written text pieces last) :
    ∃ pieces' last', Cut Written (c :: text) pieces' last' ∧
      pieces'.map Prod.snd = pieces.map Prod.snd ∧
      outside pieces' last' = c :: outside pieces last := by
  cases h with
  | last hnone =>
      refine ⟨[], c :: text, .last ?_, rfl, rfl⟩
      intro front a rest hoccurs
      cases front with
      | nil => exact hnot a rest hoccurs
      | cons d front => exact hnone front a rest (occurs_cons_iff.mp hoccurs).2
  | @next _ front rest _ a pieces hoccurs hfirst hrest =>
      refine ⟨(c :: front, a) :: pieces, last, .next (occurs_cons_iff.mpr ⟨rfl, hoccurs⟩) ?_ hrest,
        rfl, rfl⟩
      intro front' a' rest' hoccurs'
      cases front' with
      | nil => exact absurd hoccurs' (hnot a' rest')
      | cons d front' => exact Nat.succ_le_succ (hfirst _ _ _ (occurs_cons_iff.mp hoccurs').2)

end Cut

end Retrace.Text
