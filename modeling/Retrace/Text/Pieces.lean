/-!
Cutting text at a separator.
-/

namespace Retrace.Text

/-- The pieces between the separators, empty ones included. -/
def pieces (separator : Char) : List Char → List (List Char)
  | [] => [[]]
  | c :: rest =>
      if c = separator then [] :: pieces separator rest
      else
        match pieces separator rest with
        | piece :: others => (c :: piece) :: others
        | [] => [[c]]

theorem pieces_ne_nil (separator : Char) (text : List Char) : pieces separator text ≠ [] := by
  cases text with
  | nil => simp [pieces]
  | cons c rest =>
      unfold pieces
      split
      · simp
      · split <;> simp

theorem pieces_of_not_mem {separator : Char} {text : List Char} (h : separator ∉ text) :
    pieces separator text = [text] := by
  induction text with
  | nil => rfl
  | cons c rest ih =>
      rw [List.mem_cons, not_or] at h
      simp [pieces, Ne.symm h.1, ih h.2]

theorem pieces_append_cons {separator : Char} {piece : List Char} (h : separator ∉ piece)
    (text : List Char) :
    pieces separator (piece ++ separator :: text) = piece :: pieces separator text := by
  induction piece with
  | nil => simp [pieces]
  | cons c rest ih =>
      rw [List.mem_cons, not_or] at h
      simp [pieces, Ne.symm h.1, ih h.2]

/-- What stands before and after the last separator, unless nothing stands before it. -/
def cutLast? (separator : Char) (text : List Char) : Option (List Char × List Char) :=
  match text.reverse.dropWhile (· != separator) with
  | _ :: c :: before =>
      some ((c :: before).reverse, (text.reverse.takeWhile (· != separator)).reverse)
  | _ => none

theorem cutLast?_append {separator : Char} {before after : List Char} (hb : before ≠ [])
    (ha : separator ∉ after) :
    cutLast? separator (before ++ separator :: after) = some (before, after) := by
  have hreverse : (before ++ separator :: after).reverse =
      after.reverse ++ separator :: before.reverse := by simp
  have hskip : ∀ c ∈ after.reverse, (c != separator) = true := by
    intro c hc
    rw [bne_iff_ne]
    rintro rfl
    exact ha (List.mem_reverse.mp hc)
  have hdrop : (separator :: before.reverse).dropWhile (· != separator) =
      separator :: before.reverse := by simp
  have htake : (separator :: before.reverse).takeWhile (· != separator) = [] := by simp
  unfold cutLast?
  rw [hreverse, List.dropWhile_append_of_pos hskip, List.takeWhile_append_of_pos hskip, hdrop,
    htake]
  cases hc : before.reverse with
  | nil => exact absurd (List.reverse_eq_nil_iff.mp hc) hb
  | cons c rest =>
      have hbefore : (c :: rest).reverse = before := by
        rw [← hc, List.reverse_reverse]
      simp only [hbefore, List.append_nil, List.reverse_reverse]

end Retrace.Text
