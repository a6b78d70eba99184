import Retrace.Fragment
import Retrace.Proofs.Text.Blank

/-!
The tag and the input type of a fragment. The tag is the first that is opened. It is a word in
lower case, so it has neither blanks nor quotes, and lower-casing it or the type once more changes
nothing.
-/

namespace Retrace.Fragment

open Text

section Opening

/-- What follows a bracket that opens a tag: blanks, the name as a longest run of word characters,
and anywhere later a closing bracket. -/
inductive Opens : List Char → List Char → Prop
  | intro {blanks name rest : List Char} (hblanks : ∀ c ∈ blanks, isBlank c) (hne : name ≠ [])
      (hname : ∀ c ∈ name, isWord c) (hlongest : ∀ c ∈ rest.head?, isWord c = false)
      (hclose : '>' ∈ rest) : Opens name (blanks ++ (name ++ rest))

/-- The first bracket that opens a tag opens one of the given name. -/
def FirstOpened (text name : List Char) : Prop :=
  ∃ before after, text = before ++ '<' :: after ∧ Opens name after ∧
    ∀ before' name' after', text = before' ++ '<' :: after' → Opens name' after' →
      before.length ≤ before'.length

variable {text name rest : List Char}

theorem opens_iff : Opens name text ↔
    name = (text.dropWhile isBlank).takeWhile isWord ∧ name ≠ [] ∧ '>' ∈ text := by
  constructor
  · rintro ⟨hblanks, hne, hname, hlongest, hclose⟩
    next blanks rest =>
    have hstop : rest.takeWhile isWord = [] := by
      cases rest with
      | nil => rfl
      | cons c rest => rw [List.takeWhile_cons_of_neg (by simp [hlongest c rfl])]
    have hstart : (name ++ rest).dropWhile isBlank = name ++ rest := by
      obtain ⟨c, name, rfl⟩ := List.exists_cons_of_ne_nil hne
      have hc := not_isBlank_of_isWord (hname c List.mem_cons_self)
      rw [List.cons_append, List.dropWhile_cons_of_neg (by simp [hc])]
    rw [List.dropWhile_append_of_pos hblanks, hstart, List.takeWhile_append_of_pos hname, hstop,
      List.append_nil]
    exact ⟨rfl, hne, List.mem_append_right _ (List.mem_append_right _ hclose)⟩
  · rintro ⟨hname, hne, hclose⟩
    have htext : text = text.takeWhile isBlank ++
        (name ++ (text.dropWhile isBlank).dropWhile isWord) := by
      rw [hname, List.takeWhile_append_dropWhile, List.takeWhile_append_dropWhile]
    rw [htext] at hclose ⊢
    refine .intro (fun c hc => List.mem_takeWhile_imp hc) hne ?_ ?_ ?_
    · rw [hname]
      exact fun c hc => List.mem_takeWhile_imp hc
    · intro c hc
      have hhead := List.head?_dropWhile_not isWord (text.dropWhile isBlank)
      rw [Option.mem_def.mp hc] at hhead
      exact hhead
    · rw [List.mem_append, List.mem_append] at hclose
      rcases hclose with hblank | hword | hrest
      · exact absurd (List.mem_takeWhile_imp hblank) (by decide)
      · rw [hname] at hword
        exact absurd (List.mem_takeWhile_imp hword) (by decide +kernel)
      · exact hrest

theorem tagName?_of_opens (h : Opens name rest) : tagName? ('<' :: rest) = some name := by
  obtain ⟨rfl, hne, hclose⟩ := opens_iff.mp h
  exact if_pos ⟨rfl, hne, hclose⟩

theorem tagName?_of_not_opens {c : Char} (h : c = '<' → ∀ name, ¬ Opens name rest) :
    tagName? (c :: rest) = tagName? rest := by
  refine if_neg ?_
  rintro ⟨hc, hne, hclose⟩
  exact h hc _ (opens_iff.mpr ⟨rfl, hne, hclose⟩)

/-- The scan finds the name of the tag that is opened first. -/
theorem firstOpened_of_tagName? (h : tagName? text = some name) : FirstOpened text name := by
  induction text with
  | nil => cases h
  | cons c rest ih =>
      by_cases hopens : c = '<' ∧ ∃ name, Opens name rest
      · obtain ⟨rfl, found, hfound⟩ := hopens
        rw [tagName?_of_opens hfound] at h
        cases h
        exact ⟨[], rest, rfl, hfound, fun _ _ _ _ _ => Nat.zero_le _⟩
      · have hnot : c = '<' → ∀ name, ¬ Opens name rest :=
          fun hc name hname => hopens ⟨hc, name, hname⟩
        rw [tagName?_of_not_opens hnot] at h
        obtain ⟨before, after, rfl, hname, hfirst⟩ := ih h
        refine ⟨c :: before, after, rfl, hname, ?_⟩
        intro before' name' after' htext hname'
        cases before' with
        | nil =>
            obtain ⟨hc, hafter⟩ := List.cons_eq_cons.mp htext
            rw [← hafter] at hname'
            exact absurd hname' (hnot hc name')
        | cons d before' =>
            obtain ⟨-, htext⟩ := List.cons_eq_cons.mp htext
            exact Nat.succ_le_succ (hfirst before' name' after' htext hname')

/-- Nothing is found where no bracket opens a tag. -/
theorem not_opens_of_tagName? (h : tagName? text = none) {before after : List Char}
    (htext : text = before ++ '<' :: after) : ¬ Opens name after := by
  induction text generalizing before with
  | nil => cases before <;> cases htext
  | cons c rest ih =>
      have hnot : c = '<' → ∀ name, ¬ Opens name rest := by
        rintro rfl found hfound
        rw [tagName?_of_opens hfound] at h
        cases h
      rw [tagName?_of_not_opens hnot] at h
      cases before with
      | nil =>
          obtain ⟨hc, rfl⟩ := List.cons_eq_cons.mp htext
          exact hnot hc name
      | cons d before => exact ih h (List.cons_eq_cons.mp htext).2

/-- One tag is opened first. -/
theorem FirstOpened.unique {other : List Char} (h : FirstOpened text name)
    (h' : FirstOpened text other) : name = other := by
  obtain ⟨before, after, rfl, hopens, hfirst⟩ := h
  obtain ⟨before', after', htext, hopens', hfirst'⟩ := h'
  have hlength := Nat.le_antisymm (hfirst _ _ _ htext hopens') (hfirst' _ _ _ rfl hopens)
  obtain ⟨-, hafter⟩ := List.append_inj htext hlength
  obtain ⟨-, rfl⟩ := List.cons_eq_cons.mp hafter
  rw [(opens_iff.mp hopens).1, (opens_iff.mp hopens').1]

theorem tagName?_eq_some_iff : tagName? text = some name ↔ FirstOpened text name := by
  refine ⟨firstOpened_of_tagName?, fun h => ?_⟩
  cases hfound : tagName? text with
  | none =>
      obtain ⟨before, after, htext, hopens, -⟩ := h
      exact absurd hopens (not_opens_of_tagName? hfound htext)
  | some found => rw [(firstOpened_of_tagName? hfound).unique h]

theorem tagName?_eq_none_iff : tagName? text = none ↔
    ∀ before name after, text = before ++ '<' :: after → ¬ Opens name after := by
  refine ⟨fun h before name after => not_opens_of_tagName? h, fun h => ?_⟩
  rw [Option.eq_none_iff_forall_ne_some]
  intro name hname
  obtain ⟨before, after, htext, hopens, -⟩ := firstOpened_of_tagName? hname
  exact h before name after htext hopens

end Opening

theorem isWord_of_mem_tagName {text name : List Char} (h : tagName? text = some name) :
    ∀ c ∈ name, isWord c := by
  induction text with
  | nil => cases h
  | cons c rest ih =>
      rw [tagName?] at h
      split at h
      · cases h
        intro d hd
        exact List.mem_takeWhile_imp hd
      · exact ih h

variable {html tag : String}

theorem quote_notMem_tag (h : (read html).tag = some tag) : '"' ∉ tag.toList := by
  obtain ⟨name, hname, rfl⟩ := Option.map_eq_some_iff.mp h
  rw [lowerText, String.toList_ofList]
  refine quote_notMem_lower ?_
  intro hquote
  exact absurd (isWord_of_mem_tagName hname _ hquote) (by decide)

theorem not_isBlank_tag (h : (read html).tag = some tag) : ∀ c ∈ tag.toList, isBlank c = false := by
  obtain ⟨name, hname, rfl⟩ := Option.map_eq_some_iff.mp h
  rw [lowerText, String.toList_ofList]
  refine not_isBlank_of_mem_lower ?_
  intro c hc
  exact not_isBlank_of_isWord (isWord_of_mem_tagName hname c hc)

theorem lowerText_lowerText (text : List Char) :
    lowerText (lowerText text).toList = lowerText text := by
  rw [lowerText, lowerText, String.toList_ofList, lower_lower]

theorem lowerText_getD_tag (html : String) :
    lowerText ((read html).tag.getD "").toList = (read html).tag.getD "" := by
  cases h : tagName? html.toList with
  | none =>
      simp only [read, h]
      rfl
  | some name =>
      simp only [read, h]
      exact lowerText_lowerText name

theorem lowerText_getD_inputType (html : String) :
    lowerText ((read html).inputType.getD "").toList = (read html).inputType.getD "" := by
  simp only [read]
  split
  · cases typeValue? html.toList with
    | none => rfl
    | some value => exact lowerText_lowerText value
  · rfl

/-- Only an input has a type. -/
theorem inputType_eq_none (h : (read html).tag ≠ some "input") : (read html).inputType = none :=
  if_neg h

end Retrace.Fragment
