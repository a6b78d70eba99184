import Retrace.Json.Reader

/-!
Reading quoted text back. A quoted text ends at the first quote that no backslash takes away, and
what a backslash introduces stands for something else. Which escapes there are is a parameter: a
value that is put between quotes as it is does not depend on it.
-/

namespace Retrace.Text

/-- What may be written after a backslash, and what it stands for there. -/
structure EscapeRule where
  StandsFor : List Char → List Char → Prop
  length_le {written meaning : List Char} (h : StandsFor written meaning) :
    meaning.length ≤ written.length

/-- The character with the code point that hexadecimal digits name, if there is one. -/
def namedChar (digits : List Nat) : Char :=
  let n := digits.foldl (16 * · + ·) 0
  if n ≠ 0 ∧ n.isValidChar then Char.ofNat n else '\uFFFD'

/-- An escape of CSS: the end of a line stands for nothing, up to six hexadecimal digits stand for a
code point, and anything else stands for itself. -/
inductive CssEscape : List Char → List Char → Prop
  | lineEnd : CssEscape ['\n'] []
  | itself {c : Char} (hline : c ≠ '\n') (hdigit : Document.hexValue? c = none) : CssEscape [c] [c]
  | codePoint {written blank : List Char} {digits : List Nat}
      (hdigits : written.mapM Document.hexValue? = some digits) (hsome : digits ≠ [])
      (hmost : written.length ≤ 6) (hblank : blank = [] ∨ blank = [' ']) :
      CssEscape (written ++ blank) [namedChar digits]

/-- The escapes of selectors. -/
def EscapeRule.css : EscapeRule where
  StandsFor := CssEscape
  length_le := by
    intro written meaning h
    cases h with
    | lineEnd => exact Nat.zero_le _
    | itself => exact Nat.le_refl _
    | @codePoint written blank digits hdigits hsome _ _ =>
        have hne : written ≠ [] := by
          rintro rfl
          exact hsome (Option.some.inj hdigits).symm
        have hpos := List.length_pos_iff.mpr hne
        simp only [List.length_cons, List.length_nil, List.length_append]
        omega

/-- A text right after an opening quote is read as a value, and `after` follows the closing
quote. -/
inductive ReadsAs (rule : EscapeRule) : List Char → List Char → List Char → Prop
  | close {after : List Char} : ReadsAs rule ('"' :: after) [] after
  | plain {c : Char} {text value after : List Char} (hquote : c ≠ '"') (hescape : c ≠ '\\')
      (hrest : ReadsAs rule text value after) : ReadsAs rule (c :: text) (c :: value) after
  | escape {written meaning text value after : List Char}
      (hmeaning : rule.StandsFor written meaning) (hrest : ReadsAs rule text value after) :
      ReadsAs rule ('\\' :: (written ++ text)) (meaning ++ value) after

namespace ReadsAs

variable {rule : EscapeRule} {text value after read rest : List Char} {c : Char}

theorem length_le (h : ReadsAs rule text value after) :
    value.length + 1 + after.length ≤ text.length := by
  induction h with
  | close =>
      simp only [List.length_nil, List.length_cons]
      omega
  | plain _ _ _ ih =>
      simp only [List.length_cons]
      omega
  | escape hmeaning _ ih =>
      have hle := rule.length_le hmeaning
      simp only [List.length_cons, List.length_append]
      omega

/-- A value that is as long as what is written of it is written as it is. -/
theorem eq_of_length_le (h : ReadsAs rule text value after)
    (hlength : text.length ≤ value.length + 1 + after.length) :
    text = value ++ '"' :: after ∧ '"' ∉ value ∧ '\\' ∉ value := by
  induction h with
  | close => simp
  | @plain c text value after hquote hescape _ ih =>
      simp only [List.length_cons] at hlength
      obtain ⟨rfl, hq, he⟩ := ih (by omega)
      simp [hquote.symm, hescape.symm, hq, he]
  | escape hmeaning hrest _ =>
      have hle := rule.length_le hmeaning
      have hrest := hrest.length_le
      simp only [List.length_cons, List.length_append] at hlength
      omega

theorem quote_iff : ReadsAs rule ('"' :: after) read rest ↔ read = [] ∧ rest = after := by
  constructor
  · intro h
    cases h with
    | close => exact ⟨rfl, rfl⟩
    | plain hquote _ _ => exact absurd rfl hquote
  · rintro ⟨rfl, rfl⟩
    exact .close

theorem cons_iff (hquote : c ≠ '"') (hescape : c ≠ '\\') :
    ReadsAs rule (c :: text) read rest ↔
      ∃ value, read = c :: value ∧ ReadsAs rule text value rest := by
  constructor
  · intro h
    cases h with
    | close => exact absurd rfl hquote
    | plain _ _ hrest => exact ⟨_, rfl, hrest⟩
    | escape _ _ => exact absurd rfl hescape
  · rintro ⟨value, rfl, hrest⟩
    exact .plain hquote hescape hrest

/-- What holds neither a quote nor a backslash is read as itself, and not otherwise. -/
theorem append_quote_iff (hquote : '"' ∉ value) (hescape : '\\' ∉ value) :
    ReadsAs rule (value ++ '"' :: after) read rest ↔ read = value ∧ rest = after := by
  induction value generalizing read with
  | nil => exact quote_iff
  | cons c value ih =>
      rw [List.mem_cons, not_or] at hquote hescape
      rw [List.cons_append, cons_iff (Ne.symm hquote.1) (Ne.symm hescape.1)]
      constructor
      · rintro ⟨value', rfl, hrest⟩
        obtain ⟨rfl, rfl⟩ := (ih hquote.2 hescape.2).mp hrest
        exact ⟨rfl, rfl⟩
      · rintro ⟨rfl, rfl⟩
        exact ⟨value, rfl, (ih hquote.2 hescape.2).mpr ⟨rfl, rfl⟩⟩

end ReadsAs

/-- What follows the first quote of a text. -/
def afterQuote (text : List Char) : List Char := (text.dropWhile (· ≠ '"')).drop 1

/-- From its first quote on the text is read as the value, up to the quote right before `rest`, and
in no other way. -/
def Delimits (rule : EscapeRule) (text value rest : List Char) : Prop :=
  ∀ read left, ReadsAs rule (afterQuote text) read left ↔ read = value ∧ left = rest

theorem afterQuote_append {front : List Char} (h : '"' ∉ front) (rest : List Char) :
    afterQuote (front ++ '"' :: rest) = rest := by
  have hskip : ∀ c ∈ front, decide (c ≠ '"') = true := by
    intro c hc
    refine decide_eq_true ?_
    rintro rfl
    exact h hc
  rw [afterQuote, List.dropWhile_append_of_pos hskip, List.dropWhile_cons_of_neg (by decide)]
  rfl

/-- A value between quotes delimits itself exactly if it has neither quotes nor backslashes. -/
theorem delimits_iff (rule : EscapeRule) {front value rest : List Char} (hfront : '"' ∉ front) :
    Delimits rule (front ++ '"' :: (value ++ '"' :: rest)) value rest ↔
      '"' ∉ value ∧ '\\' ∉ value := by
  rw [Delimits, afterQuote_append hfront]
  constructor
  · intro h
    have hread := (h value rest).mpr ⟨rfl, rfl⟩
    refine (hread.eq_of_length_le ?_).2
    simp only [List.length_append, List.length_cons]
    omega
  · rintro ⟨hquote, hescape⟩ read left
    exact ReadsAs.append_quote_iff hquote hescape

end Retrace.Text
