import Mathlib.Data.List.DropRight
import Retrace.Proofs.Text.LowerCase
import Retrace.Text.Word

/-!
Blanks and trimming. A trimmed text begins and ends with characters that are not blank, which is
when trimming leaves a text as it is, and only blanks are lost on the way.
-/

namespace Retrace.Text

def isVisible (c : Char) : Bool := !isBlank c

theorem not_isBlank_of_isWord {c : Char} (h : isWord c) : isBlank c = false := by
  have hapart : blankRanges.toList.all fun r => wordRanges.toList.all (misses r) := by
    decide +kernel
  by_contra hblank
  rw [Bool.not_eq_false] at hblank
  obtain ⟨r, hr, hfirst, hlast⟩ := Ranges.has_iff.mp hblank
  obtain ⟨s, hs, hfirst', hlast'⟩ := Ranges.has_iff.mp h
  have hmiss := misses_iff.mp (List.all_eq_true.mp (List.all_eq_true.mp hapart r hr) s hs)
  omega

/-- The text has no blank at either end. -/
structure IsTrimmed (text : List Char) : Prop where
  head : ∀ c ∈ text.head?, isVisible c
  last : ∀ c ∈ text.getLast?, isVisible c

variable {text : List Char}

theorem head_trimStart (text : List Char) : ∀ c ∈ (trimStart text).head?, isVisible c := by
  intro c hc
  have hhead := List.head?_dropWhile_not isBlank text
  rw [trimStart, Option.mem_def] at hc
  rw [hc] at hhead
  rw [isVisible, hhead]
  rfl

theorem last_trimEnd (text : List Char) : ∀ c ∈ (trimEnd text).getLast?, isVisible c := by
  rw [trimEnd, List.getLast?_reverse]
  exact head_trimStart text.reverse

theorem trimEnd_isPrefix (text : List Char) : trimEnd text <+: text :=
  List.rdropWhile_prefix isBlank text

theorem trim_isInfix (text : List Char) : trim text <:+: text :=
  (trimEnd_isPrefix _).isInfix.trans (List.dropWhile_suffix isBlank).isInfix

theorem isTrimmed_trim (text : List Char) : IsTrimmed (trim text) := by
  refine ⟨?_, last_trimEnd (trimStart text)⟩
  intro c hc
  obtain ⟨rest, hrest⟩ := trimEnd_isPrefix (trimStart text)
  refine head_trimStart text c ?_
  rw [← hrest]
  exact List.mem_head?_append_of_mem_head? hc

theorem isTrimmed_cons {c : Char} (hc : isVisible c) (hlast : ∀ d ∈ text.getLast?, isVisible d) :
    IsTrimmed (c :: text) := by
  constructor
  · intro d hd
    cases hd
    exact hc
  · intro d hd
    rw [List.getLast?_cons, Option.mem_some] at hd
    cases htext : text.getLast? with
    | none =>
        rw [htext] at hd
        exact hd ▸ hc
    | some last =>
        rw [htext] at hd
        exact hd ▸ hlast last htext

theorem trimStart_of_head (h : ∀ c ∈ text.head?, isVisible c) : trimStart text = text := by
  cases text with
  | nil => rfl
  | cons c rest =>
      have hc : isBlank c = false := by simpa [isVisible] using h c rfl
      rw [trimStart, List.dropWhile_cons_of_neg (by simp [hc])]

theorem IsTrimmed.trim_eq (h : IsTrimmed text) : trim text = text := by
  have hreverse : trimStart text.reverse = text.reverse := by
    apply trimStart_of_head
    rw [List.head?_reverse]
    exact h.last
  rw [trim, trimStart_of_head h.head, trimEnd]
  exact (congrArg List.reverse hreverse).trans text.reverse_reverse

theorem filter_trimStart (text : List Char) :
    (trimStart text).filter isVisible = text.filter isVisible := by
  have hlost : (text.takeWhile isBlank).filter isVisible = [] := by
    rw [List.filter_eq_nil_iff]
    intro c hc
    rw [isVisible, List.mem_takeWhile_imp hc]
    decide
  conv => rhs; rw [← List.takeWhile_append_dropWhile (p := isBlank) (l := text)]
  rw [List.filter_append, hlost]
  rfl

/-- Trimming loses nothing but blanks. -/
theorem filter_trim (text : List Char) : (trim text).filter isVisible = text.filter isVisible := by
  have hend : (trimEnd (trimStart text)).filter isVisible =
      (trimStart text).filter isVisible := by
    rw [trimEnd, List.filter_reverse]
    change ((trimStart (trimStart text).reverse).filter isVisible).reverse = _
    rw [filter_trimStart, List.filter_reverse, List.reverse_reverse]
  rw [trim, hend, filter_trimStart]

end Retrace.Text
