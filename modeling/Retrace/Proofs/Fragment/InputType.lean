import Retrace.Proofs.Fragment.Attributes
import Retrace.Proofs.Fragment.Tags

/-!
The type of an input, against the attributes of its fragment. The type is looked up where it occurs
first and an attribute has the value that it is given last, so the two agree where it occurs once.
-/

namespace Retrace.Fragment

open Text

/-- The value of the first attribute that is a type, whatever the case of the letters. -/
def FirstTyped (found : List (List Char × List Char)) (value : List Char) : Prop :=
  ∃ before name after, found = before ++ (name, value) :: after ∧ isTypeName name ∧
    ∀ earlier ∈ before, isTypeName earlier.1 = false

variable {text name value : List Char} {html inputType : String}

theorem typeValue?_eq_some_iff :
    typeValue? text = some value ↔ FirstTyped (occurrences text) value := by
  rw [typeValue?, Option.map_eq_some_iff]
  simp only [List.find?_eq_some_iff_append, Bool.not_eq_true']
  constructor
  · rintro ⟨⟨name, _⟩, ⟨htype, before, after, hfound, hfirst⟩, rfl⟩
    exact ⟨before, name, after, hfound, htype, hfirst⟩
  · rintro ⟨before, name, after, hfound, htype, hfirst⟩
    exact ⟨(name, value), ⟨htype, before, after, hfound, hfirst⟩, rfl⟩

theorem typeValue?_eq_none_iff :
    typeValue? text = none ↔ ∀ o ∈ occurrences text, isTypeName o.1 = false := by
  rw [typeValue?, Option.map_eq_none_iff, List.find?_eq_none]
  simp only [Bool.not_eq_true]

theorem typed_or_untyped (text : List Char) : (∃ value, FirstTyped (occurrences text) value) ∨
    ∀ o ∈ occurrences text, isTypeName o.1 = false := by
  simp only [← typeValue?_eq_some_iff, ← typeValue?_eq_none_iff, ← Option.isSome_iff_exists,
    ← Option.isNone_iff_eq_none]
  cases typeValue? text <;> simp

theorem isTypeName_iff : isTypeName name ↔ lowerText name = "type" := by
  have hletters : ∀ c ∈ ['t', 'y', 'p', 'e'], IsPlainLetter c := by
    simp [IsPlainLetter]
  have htype : "type".toList = ['t', 'y', 'p', 'e'] := by decide
  rw [isTypeName, beq_iff_eq, ← lowerAfter_eq_iff hletters [], ← String.toList_inj, lowerText,
    String.toList_ofList, htype, lower]

theorem lowerText_eq_empty_iff : lowerText value = "" ↔ value = [] := by
  rw [← lower_eq_nil_iff, ← String.toList_inj, lowerText, String.toList_ofList]
  rfl

theorem inputType_eq_some_iff : (read html).inputType = some inputType ↔
    (read html).tag = some "input" ∧
      inputType = ((typeValue? html.toList).map lowerText).getD "" := by
  change (if (read html).tag = some "input" then _ else _) = _ ↔ _
  split
  · next htag => simp [htag, eq_comm]
  · next htag => simp [htag]

theorem eq_lowerText_of_firstTyped (h : (read html).inputType = some inputType)
    (hvalue : FirstTyped (occurrences html.toList) value) : inputType = lowerText value := by
  rw [(inputType_eq_some_iff.mp h).2, typeValue?_eq_some_iff.mpr hvalue]
  rfl

theorem eq_empty_of_untyped (h : (read html).inputType = some inputType)
    (hnone : ∀ o ∈ occurrences html.toList, isTypeName o.1 = false) : inputType = "" := by
  rw [(inputType_eq_some_iff.mp h).2, typeValue?_eq_none_iff.mpr hnone]
  rfl

/-- A type that occurs is among the attributes. -/
theorem FirstTyped.exists_attribute (h : FirstTyped (occurrences html.toList) value) :
    ∃ last, ("type", last) ∈ attributes html := by
  obtain ⟨before, name, after, hfound, htype, -⟩ := h
  have hname : "type" ∈ (attributes html).map Prod.fst := by
    rw [attributes_eq_gather, Entries.names_gather, List.mem_eraseDups, hfound, List.map_append,
      List.map_cons]
    exact List.mem_append_right _ (isTypeName_iff.mp htype ▸ List.mem_cons_self)
  obtain ⟨⟨_, last⟩, hmem, rfl⟩ := List.mem_map.mp hname
  exact ⟨last, hmem⟩

/-- A type that occurs once is the attribute of that name. -/
theorem FirstTyped.mem_attributes (h : FirstTyped (occurrences html.toList) value)
    (hone : (occurrences html.toList).countP (fun o => isTypeName o.1) = 1) :
    ("type", String.ofList value) ∈ attributes html := by
  obtain ⟨before, name, after, hfound, htype, -⟩ := h
  have hnone : after.countP (fun o => isTypeName o.1) = 0 := by
    rw [hfound, List.countP_append, List.countP_cons, if_pos htype] at hone
    omega
  rw [attributes_eq_gather, Entries.mem_gather_iff]
  refine ⟨before, (name, value), after, hfound, isTypeName_iff.mp htype, rfl, ?_⟩
  intro later hlater hname
  exact List.countP_eq_zero.mp hnone later hlater (isTypeName_iff.mpr hname)

/-- The type is empty where none occurs or the first that occurs is empty. -/
theorem eq_empty_iff (h : (read html).inputType = some inputType) : inputType = "" ↔
    (∀ o ∈ occurrences html.toList, isTypeName o.1 = false) ∨
      FirstTyped (occurrences html.toList) [] := by
  constructor
  · rintro rfl
    rcases typed_or_untyped html.toList with ⟨value, hvalue⟩ | hnone
    · have hempty := eq_lowerText_of_firstTyped h hvalue
      rw [lowerText_eq_empty_iff.mp hempty.symm] at hvalue
      exact .inr hvalue
    · exact .inl hnone
  · rintro (hnone | hempty)
    · exact eq_empty_of_untyped h hnone
    · exact eq_lowerText_of_firstTyped h hempty

theorem eq_empty_of_no_attribute (h : (read html).inputType = some inputType)
    (habsent : ∀ value, ("type", value) ∉ attributes html) : inputType = "" := by
  rcases typed_or_untyped html.toList with ⟨value, hvalue⟩ | hnone
  · obtain ⟨last, hlast⟩ := hvalue.exists_attribute
    exact absurd hlast (habsent last)
  · exact eq_empty_of_untyped h hnone

theorem exists_attribute_of_countP (h : (read html).inputType = some inputType)
    (hone : (occurrences html.toList).countP (fun o => isTypeName o.1) = 1) :
    ∃ value, ("type", value) ∈ attributes html ∧ inputType = lowerText value.toList := by
  rcases typed_or_untyped html.toList with ⟨value, hvalue⟩ | hnone
  · refine ⟨_, hvalue.mem_attributes hone, ?_⟩
    rw [String.toList_ofList]
    exact eq_lowerText_of_firstTyped h hvalue
  · rw [List.countP_eq_zero.mpr fun o ho => by simp [hnone o ho]] at hone
    cases hone

/-- The tag is the first that is opened. An input, and nothing else, has a type: the one that occurs
first among its attributes, and the empty one where none does or the first is empty. -/
theorem tag_and_inputType (html : String) :
    (∀ tag, (read html).tag = some tag ↔
      ∃ name, FirstOpened html.toList name ∧ tag = lowerText name) ∧
    ((read html).tag = none ↔
      ∀ before name after, html.toList = before ++ '<' :: after → ¬ Opens name after) ∧
    ((read html).inputType.isSome ↔ (read html).tag = some "input") ∧
    ∃ pieces last, Cut IsAttribute html.toList pieces last ∧
      (∀ pieces' last', Cut IsAttribute html.toList pieces' last' →
        pieces' = pieces ∧ last' = last) ∧
      let found := pieces.map Prod.snd
      ∀ inputType, (read html).inputType = some inputType →
        (∀ value, FirstTyped found value → inputType = lowerText value) ∧
        (inputType = "" ↔ (∀ o ∈ found, isTypeName o.1 = false) ∨ FirstTyped found []) ∧
        ((∀ value, ("type", value) ∉ attributes html) → inputType = "") ∧
        (found.countP (fun o => isTypeName o.1) = 1 →
          ∃ value, ("type", value) ∈ attributes html ∧ inputType = lowerText value.toList) := by
  refine ⟨?_, ?_, ?_, ?_⟩
  · intro tag
    simp only [← tagName?_eq_some_iff]
    exact Option.map_eq_some_iff.trans (by simp only [eq_comm])
  · rw [← tagName?_eq_none_iff]
    exact Option.map_eq_none_iff
  · rw [Option.isSome_iff_exists]
    simp [inputType_eq_some_iff]
  · obtain ⟨pieces, last, hcut, hfound⟩ := cut_occurrences html.toList
    refine ⟨pieces, last, hcut, ?_, ?_⟩
    · intro pieces' last' hcut'
      exact hcut.unique unambiguous_attribute hcut'
    · dsimp only
      rw [hfound]
      intro inputType hinput
      exact ⟨fun value => eq_lowerText_of_firstTyped hinput, eq_empty_iff hinput,
        eq_empty_of_no_attribute hinput, exists_attribute_of_countP hinput⟩

/-- Two brackets that open no tag, and a type in capitals beside a name with another letter. -/
theorem tag_and_inputType_capitals :
    let html := "1 <= 2</p>< InPut TYPE=\"RaDio\" typë=\"b\">"
    (∃ name, FirstOpened html.toList name ∧ "input" = lowerText name) ∧
      ∃ pieces last, Cut IsAttribute html.toList pieces last ∧
        (pieces.map Prod.snd).countP (fun o => isTypeName o.1) = 1 ∧
          ∃ value, ("type", value) ∈ attributes html ∧ "radio" = lowerText value.toList := by
  intro html
  obtain ⟨htag, -, -, pieces, last, hcut, hunique, htype⟩ := tag_and_inputType html
  have hread : read html = { text := some "1", tag := "input", inputType := "radio" } := by
    decide +kernel
  have hone : (pieces.map Prod.snd).countP (fun o => isTypeName o.1) = 1 := by
    obtain ⟨pieces', last', hcut', hfound⟩ := cut_occurrences html.toList
    rw [← (hunique pieces' last' hcut').1, hfound]
    decide +kernel
  refine ⟨(htag "input").mp (by rw [hread]), pieces, last, hcut, hone, ?_⟩
  exact (htype "radio" (by rw [hread])).2.2.2 hone

end Retrace.Fragment
