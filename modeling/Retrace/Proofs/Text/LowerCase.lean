import Mathlib.Data.Nat.Basic
import Retrace.Text.Blank
import Retrace.Text.LowerCase

/-!
What lower-casing writes in the place of a letter stays as it is when it is lower-cased again, and
is neither blank nor a quote. A word of ASCII letters comes from nothing else than itself in
capitals or not, unless it has a `k`. All this is seen from the ends of the rows of the table,
without going through the letters of a row.
-/

namespace Retrace.Text

theorem exists_row_of_findLower {rows : List (Nat × Nat × Nat × Nat)} {n image : Nat}
    (h : findLower rows n = some image) :
    ∃ row ∈ rows, row.1 ≤ n ∧ n ≤ row.2.1 ∧ (n - row.1) % row.2.2.1 = 0 ∧
      image = row.2.2.2 + (n - row.1) := by
  induction rows with
  | nil => cases h
  | cons row rest ih =>
      have hlater : findLower rest n = some image → ∃ row' ∈ row :: rest, row'.1 ≤ n ∧
          n ≤ row'.2.1 ∧ (n - row'.1) % row'.2.2.1 = 0 ∧ image = row'.2.2.2 + (n - row'.1) := by
        intro hr
        obtain ⟨row', hmem, hrow⟩ := ih hr
        exact ⟨row', List.mem_cons_of_mem _ hmem, hrow⟩
      rw [findLower] at h
      split at h
      · cases h
      · next hfirst =>
          split at h
          · next hlast =>
              split at h
              · next hstep =>
                  cases h
                  exact ⟨row, List.mem_cons_self, Nat.le_of_not_lt hfirst, hlast, hstep, rfl⟩
              · exact hlater h
          · exact hlater h

/-- The range of the letters that a row goes to. -/
def imageRange (row : Nat × Nat × Nat × Nat) : Nat × Nat :=
  (row.2.2.2, row.2.2.2 + (row.2.1 - row.1))

def misses (range other : Nat × Nat) : Bool := Nat.blt range.2 other.1 || Nat.blt other.2 range.1

theorem misses_iff {range other : Nat × Nat} :
    misses range other ↔ range.2 < other.1 ∨ other.2 < range.1 := by
  simp only [misses, Bool.or_eq_true, Nat.blt_eq]

/-- No letter that the first row goes to is one that the second row changes. Where the two meet,
each takes every second letter, and they never take the same one. -/
def rowsApart (a b : Nat × Nat × Nat × Nat) : Bool :=
  misses (imageRange a) (b.1, b.2.1) ||
    (Nat.beq a.2.2.1 2 || Nat.beq a.1 a.2.1) && Nat.beq b.2.2.1 2 &&
      Nat.beq ((a.2.2.2 + b.1) % 2) 1

theorem rowsApart_lowerRuns : lowerRuns.all fun a => lowerRuns.all (rowsApart a) := by
  decide +kernel

/-- The ranges beside the rows that no row goes to: the dotted capital I, the quote, the blanks. -/
def missedRanges : List (Nat × Nat) := (0x0130, 0x0130) :: (0x0022, 0x0022) :: blankRanges.toList

theorem misses_lowerRuns :
    lowerRuns.all fun row => missedRanges.all (misses (imageRange row)) := by
  decide +kernel

theorem findLower_image {n image : Nat} (h : findLower lowerRuns n = some image) :
    findLower lowerRuns image = none := by
  by_contra hsome
  obtain ⟨other, hother⟩ := Option.ne_none_iff_exists'.mp hsome
  obtain ⟨a, ha, hfirst, hlast, hstep, himage⟩ := exists_row_of_findLower h
  obtain ⟨b, hb, hfirst', hlast', hstep', -⟩ := exists_row_of_findLower hother
  have hapart := List.all_eq_true.mp (List.all_eq_true.mp rowsApart_lowerRuns a ha) b hb
  simp only [rowsApart, Bool.or_eq_true, Bool.and_eq_true, misses_iff, imageRange,
    Nat.beq_eq] at hapart
  rcases hapart with (hbelow | habove) | ⟨⟨hsecond | hsingle, hsecond'⟩, hodd⟩
  · omega
  · omega
  · rw [hsecond] at hstep
    rw [hsecond'] at hstep'
    omega
  · rw [hsecond'] at hstep'
    omega

theorem not_mem_missed_of_findLower {n image : Nat} (h : findLower lowerRuns n = some image)
    {range : Nat × Nat} (hrange : range ∈ missedRanges) :
    ¬ (range.1 ≤ image ∧ image ≤ range.2) := by
  obtain ⟨row, hrow, hfirst, hlast, -, himage⟩ := exists_row_of_findLower h
  have hmiss := List.all_eq_true.mp (List.all_eq_true.mp misses_lowerRuns row hrow) range hrange
  rw [misses_iff, imageRange] at hmiss
  dsimp only at hmiss
  omega

/-- Lower-casing leaves the character as it is. -/
def IsSettled (c : Char) : Prop := lowerChar c = [c] ∧ c ≠ 'Σ'

instance (c : Char) : Decidable (IsSettled c) := inferInstanceAs (Decidable (_ ∧ _))

/-- What may stand in the place of a letter that is lower-cased. -/
structure IsLowerForm (c : Char) : Prop where
  settled : IsSettled c
  ne_quote : c ≠ '"'
  not_blank : isBlank c = false

theorem isLowerForm_special {c : Char} (h : c ∈ ['i', '\u0307', 'σ', 'ς', '\x00']) :
    IsLowerForm c := by
  have hall : ['i', '\u0307', 'σ', 'ς', '\x00'].all fun c =>
      decide (IsSettled c) && c != '"' && !isBlank c := by
    decide +kernel
  have hc := List.all_eq_true.mp hall c h
  simp only [Bool.and_eq_true, decide_eq_true_eq, bne_iff_ne, Bool.not_eq_true'] at hc
  exact ⟨hc.1.1, hc.1.2, hc.2⟩

theorem isLowerForm_of_findLower {n image : Nat} (h : findLower lowerRuns n = some image) :
    IsLowerForm (Char.ofNat image) := by
  by_cases hvalid : image.isValidChar
  · have hnat : (Char.ofNat image).toNat = image := by
      rw [Char.ofNat, dif_pos hvalid]
      rfl
    have hmissed {range : Nat × Nat} (hrange : range ∈ missedRanges) :=
      not_mem_missed_of_findLower h hrange
    have hne {c : Char} (hc : (c.toNat, c.toNat) ∈ missedRanges) : Char.ofNat image ≠ c := by
      rintro rfl
      rw [hnat] at hc
      exact hmissed hc ⟨Nat.le_refl _, Nat.le_refl _⟩
    refine ⟨⟨?_, ?_⟩, hne (by decide), ?_⟩
    · rw [lowerChar, if_neg (hne (by decide)), hnat, findLower_image h]
      rfl
    · intro hsigma
      have hnone := findLower_image h
      rw [← hnat, hsigma] at hnone
      exact absurd hnone (by decide +kernel)
    · by_contra hblank
      rw [Bool.not_eq_false] at hblank
      obtain ⟨range, hrange, hin⟩ := Ranges.has_iff.mp hblank
      rw [hnat] at hin
      have hlisted : range ∈ missedRanges :=
        List.mem_cons_of_mem _ (List.mem_cons_of_mem _ hrange)
      exact hmissed hlisted hin
  · have hzero : Char.ofNat image = '\x00' := by
      rw [Char.ofNat, dif_neg hvalid]
      rfl
    exact isLowerForm_special (by simp [hzero])

theorem of_mem_lowerChar {c d : Char} (hsigma : c ≠ 'Σ') (h : d ∈ lowerChar c) :
    d = c ∧ IsSettled c ∨ IsLowerForm d := by
  by_cases hdot : c = 'İ'
  · rw [lowerChar, if_pos hdot] at h
    refine .inr (isLowerForm_special ?_)
    rcases List.mem_cons.mp h with rfl | h
    · decide
    · rw [List.mem_singleton.mp h]
      decide
  · have hchar : lowerChar c = [((findLower lowerRuns c.toNat).map Char.ofNat).getD c] := by
      rw [lowerChar, if_neg hdot]
    cases hf : findLower lowerRuns c.toNat with
    | none =>
        rw [hf] at hchar
        rw [hchar] at h
        exact .inl ⟨List.mem_singleton.mp h, hchar, hsigma⟩
    | some image =>
        rw [hf] at hchar
        rw [hchar] at h
        rw [List.mem_singleton.mp h]
        exact .inr (isLowerForm_of_findLower hf)

/-- A lower-cased text has characters of the text that are left alone, and lower-case forms. -/
theorem of_mem_lowerAfter {text before : List Char} {d : Char} (h : d ∈ lowerAfter before text) :
    d ∈ text ∧ IsSettled d ∨ IsLowerForm d := by
  induction text generalizing before with
  | nil => cases h
  | cons c rest ih =>
      rw [lowerAfter, List.mem_append] at h
      rcases h with hfirst | hrest
      · split at hfirst
        · refine .inr (isLowerForm_special ?_)
          rw [List.mem_singleton.mp hfirst]
          split <;> decide
        · next hsigma =>
            rcases of_mem_lowerChar hsigma hfirst with ⟨rfl, hsettled⟩ | hform
            · exact .inl ⟨List.mem_cons_self, hsettled⟩
            · exact .inr hform
      · exact (ih hrest).imp_left fun ⟨hd, hsettled⟩ => ⟨List.mem_cons_of_mem _ hd, hsettled⟩

theorem lowerAfter_of_settled {text : List Char} (h : ∀ c ∈ text, IsSettled c)
    (before : List Char) : lowerAfter before text = text := by
  induction text generalizing before with
  | nil => rfl
  | cons c rest ih =>
      obtain ⟨hchar, hsigma⟩ := h c List.mem_cons_self
      rw [lowerAfter, if_neg hsigma, hchar, ih fun d hd => h d (List.mem_cons_of_mem _ hd)]
      rfl

/-- Lower-casing twice is lower-casing once. -/
theorem lower_lower (text : List Char) : lower (lower text) = lower text := by
  refine lowerAfter_of_settled ?_ []
  intro c hc
  rcases of_mem_lowerAfter hc with ⟨-, hsettled⟩ | hform
  · exact hsettled
  · exact hform.settled

/-- Lower-casing makes no quotes. -/
theorem quote_notMem_lower {text : List Char} (h : '"' ∉ text) : '"' ∉ lower text := by
  intro hquote
  rcases of_mem_lowerAfter hquote with ⟨hmem, -⟩ | hform
  · exact h hmem
  · exact hform.ne_quote rfl

/-- Lower-casing makes no blanks. -/
theorem not_isBlank_of_mem_lower {text : List Char} (h : ∀ c ∈ text, isBlank c = false) :
    ∀ c ∈ lower text, isBlank c = false := by
  intro c hc
  rcases of_mem_lowerAfter hc with ⟨hmem, -⟩ | hform
  · exact h c hmem
  · exact hform.not_blank

/-- The letters that nothing else is lower-cased to than they and their capitals. The kelvin sign
goes to the one that is left out. -/
def IsPlainLetter (c : Char) : Prop := 'a' ≤ c ∧ c ≤ 'z' ∧ c ≠ 'k'

instance (c : Char) : Decidable (IsPlainLetter c) := inferInstanceAs (Decidable (_ ∧ _ ∧ _))

theorem findLower_capital {n : Nat} (hfirst : 0x41 ≤ n) (hlast : n ≤ 0x5A) :
    findLower lowerRuns n = some (0x61 + (n - 0x41)) := by
  have hin : ¬ n < 0x41 := Nat.not_lt.mpr hfirst
  rw [lowerRuns, findLower, if_neg hin, if_pos hlast, if_pos (Nat.mod_one _)]

theorem findLower_small {n : Nat} (hfirst : 0x5A < n) (hlast : n < 0xC0) :
    findLower lowerRuns n = none := by
  have hin : ¬ n < 0x41 := by omega
  rw [lowerRuns, findLower, if_neg hin, if_neg (Nat.not_le.mpr hfirst), findLower, if_pos hlast]

/-- Only capitals and the kelvin sign go to letters as early as these. -/
theorem capital_of_findLower {n image : Nat} (h : findLower lowerRuns n = some image)
    (hearly : image < 0x80) : 0x41 ≤ n ∧ n ≤ 0x5A ∧ image = n + 0x20 ∨ image = 0x6B := by
  have hrows : lowerRuns.all fun row => Nat.beq row.1 0x41 && Nat.beq row.2.1 0x5A &&
      Nat.beq row.2.2.2 0x61 || Nat.beq row.1 row.2.1 && Nat.beq row.2.2.2 0x6B ||
        Nat.ble 0x80 row.2.2.2 := by
    decide +kernel
  obtain ⟨row, hrow, hfirst, hlast, -, himage⟩ := exists_row_of_findLower h
  have hkind := List.all_eq_true.mp hrows row hrow
  simp only [Bool.or_eq_true, Bool.and_eq_true, Nat.beq_eq, Nat.ble_eq] at hkind
  omega

theorem toNat_toLower (c : Char) :
    c.toLower.toNat = if 0x41 ≤ c.toNat ∧ c.toNat ≤ 0x5A then c.toNat + 0x20 else c.toNat := by
  have hrange : (c.val ≥ 'A'.val ∧ c.val ≤ 'Z'.val) ↔ 0x41 ≤ c.toNat ∧ c.toNat ≤ 0x5A := Iff.rfl
  unfold Char.toLower
  split
  · next h =>
      have hlast : c.val.toNat ≤ 0x5A := (hrange.mp h).2
      rw [if_pos (hrange.mp h)]
      change (c.val.toNat + 0x20) % 2 ^ 32 = c.val.toNat + 0x20
      exact Nat.mod_eq_of_lt (by omega)
  · next h => rw [if_neg (mt hrange.mpr h)]

theorem lowerChar_eq_singleton_iff {c d : Char} (hd : IsPlainLetter d) :
    lowerChar c = [d] ↔ c.toLower = d := by
  have hlow : 0x61 ≤ d.toNat := hd.1
  have hhigh : d.toNat ≤ 0x7A := hd.2.1
  have hk : d.toNat ≠ 0x6B := fun h => hd.2.2 (Char.toNat_inj.mp h)
  rw [← Char.toNat_inj, toNat_toLower]
  by_cases hdot : c = 'İ'
  · subst hdot
    have hnat : 'İ'.toNat = 0x130 := rfl
    rw [lowerChar, if_pos rfl, hnat, if_neg (by decide)]
    constructor
    · intro h
      cases h
    · intro h
      omega
  · rw [lowerChar, if_neg hdot, List.singleton_inj]
    by_cases hcapital : 0x41 ≤ c.toNat ∧ c.toNat ≤ 0x5A
    · have hvalid : (0x61 + (c.toNat - 0x41)).isValidChar := .inl (by omega)
      rw [if_pos hcapital, findLower_capital hcapital.1 hcapital.2, Option.map_some,
        Option.getD_some, ← Char.toNat_inj, Char.ofNat, dif_pos hvalid]
      change 0x61 + (c.toNat - 0x41) = _ ↔ _
      omega
    · rw [if_neg hcapital]
      cases hf : findLower lowerRuns c.toNat with
      | none => rw [Option.map_none, Option.getD_none, Char.toNat_inj]
      | some image =>
          rw [Option.map_some, Option.getD_some]
          constructor
          · rintro rfl
            have hvalid : image.isValidChar := by
              by_contra hinvalid
              rw [Char.ofNat, dif_neg hinvalid] at hlow
              exact absurd hlow (by decide)
            have himage : (Char.ofNat image).toNat = image := by
              rw [Char.ofNat, dif_pos hvalid]
              rfl
            have hearly := capital_of_findLower hf (by omega)
            omega
          · intro h
            rw [h, findLower_small (by omega) (by omega)] at hf
            cases hf

theorem lowerAfter_ne_nil {c : Char} {rest : List Char} (before : List Char) :
    lowerAfter before (c :: rest) ≠ [] := by
  rw [lowerAfter, lowerChar]
  split
  · exact List.cons_ne_nil _ _
  · split <;> exact List.cons_ne_nil _ _

/-- A text goes to a word of such letters if it is this word but for the case of its letters. -/
theorem lowerAfter_eq_iff {text word : List Char} (hword : ∀ c ∈ word, IsPlainLetter c)
    (before : List Char) : lowerAfter before text = word ↔ text.map Char.toLower = word := by
  induction text generalizing word before with
  | nil => rfl
  | cons c rest ih =>
      cases word with
      | nil => exact iff_of_false (lowerAfter_ne_nil before) (List.cons_ne_nil _ _)
      | cons d word =>
          obtain ⟨hd, hrest⟩ := List.forall_mem_cons.mp hword
          rw [List.map_cons, List.cons_eq_cons, ← ih hrest (c :: before),
            ← lowerChar_eq_singleton_iff hd, lowerAfter]
          by_cases hsigma : c = 'Σ'
          · subst hsigma
            have hfinal : 'ς' ≠ d := by
              rintro rfl
              exact absurd hd (by decide)
            have hplain : 'σ' ≠ d := by
              rintro rfl
              exact absurd hd (by decide)
            have hchar : lowerChar 'Σ' = ['σ'] := by decide +kernel
            rw [if_pos rfl, hchar]
            split <;> simp [hfinal, hplain]
          · rw [if_neg hsigma]
            by_cases hdot : c = 'İ'
            · subst hdot
              rw [lowerChar, if_pos rfl]
              refine iff_of_false ?_ ?_
              · intro h
                obtain ⟨-, hdots⟩ := List.cons_eq_cons.mp h
                have hdots := hrest '\u0307' (hdots ▸ List.mem_cons_self)
                exact absurd hdots (by decide)
              · rintro ⟨h, -⟩
                cases h
            · rw [lowerChar, if_neg hdot, List.singleton_append, List.cons_eq_cons,
                List.singleton_inj]

/-- Lower-casing leaves nothing of an empty text only. -/
theorem lower_eq_nil_iff {text : List Char} : lower text = [] ↔ text = [] := by
  cases text with
  | nil => exact iff_of_true rfl rfl
  | cons c rest => exact iff_of_false (lowerAfter_ne_nil []) (List.cons_ne_nil c rest)

end Retrace.Text
