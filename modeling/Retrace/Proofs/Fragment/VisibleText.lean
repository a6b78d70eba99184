import Mathlib.Data.List.Chain
import Retrace.Proofs.Text.Blank
import Retrace.Proofs.Text.Occurrences
import Retrace.Fragment

/-!
The visible text of a fragment is in normal form. No tag is left in what stands outside the tags: an
opening bracket stays only where the closing one follows at once or where none follows at all, and
collapsing and trimming the blanks changes neither.
-/

namespace Retrace.Fragment

open Text

/-- How a tag is written: in brackets, with at least one character inside. -/
inductive IsTag : List Char → List Char → Prop
  | intro {inside : List Char} (hne : inside ≠ []) (hclose : '>' ∉ inside) :
      IsTag inside ('<' :: (inside ++ ['>']))

variable {text rest inside : List Char}

theorem afterTag?_eq_some_iff :
    afterTag? text = some rest ↔
      ∃ inside, inside ≠ [] ∧ '>' ∉ inside ∧ text = inside ++ '>' :: rest := by
  constructor
  · intro h
    unfold afterTag? at h
    split at h
    · cases h
    · next hstart =>
        split at h
        · next c after hclose =>
            cases h
            have htext := eq_append_of_dropWhile_ne hclose
            refine ⟨_, ?_, notMem_takeWhile_ne _ _, htext⟩
            intro hnil
            rw [hnil] at htext
            exact hstart _ htext
        · cases h
  · rintro ⟨inside, hne, hclose, rfl⟩
    unfold afterTag?
    split
    · next heq =>
        cases inside with
        | nil => exact absurd rfl hne
        | cons c inside =>
            cases heq
            exact absurd List.mem_cons_self hclose
    · rw [(takeWhile_dropWhile_ne hclose rest).2]

/-- No tag begins where the closing bracket follows at once, or where there is none. -/
theorem afterTag?_eq_none_iff :
    afterTag? text = none ↔ text.head? = some '>' ∨ '>' ∉ text := by
  constructor
  · intro h
    by_contra hneither
    rw [not_or, not_not] at hneither
    obtain ⟨inside, rest, rfl, hclose⟩ := List.eq_append_cons_of_mem hneither.2
    have hne : inside ≠ [] := by
      rintro rfl
      exact hneither.1 rfl
    rw [afterTag?_eq_some_iff.mpr ⟨inside, hne, hclose, rfl⟩] at h
    cases h
  · intro h
    rw [Option.eq_none_iff_forall_ne_some]
    intro rest hsome
    obtain ⟨inside, hne, hclose, rfl⟩ := afterTag?_eq_some_iff.mp hsome
    rcases h with hhead | hmem
    · cases inside with
      | nil => exact hne rfl
      | cons c inside =>
          cases hhead
          exact hclose List.mem_cons_self
    · exact hmem (List.mem_append_right _ List.mem_cons_self)

theorem occurs_tag_iff {c : Char} :
    Occurs IsTag (c :: text) [] inside rest ↔
      c = '<' ∧ inside ≠ [] ∧ '>' ∉ inside ∧ text = inside ++ '>' :: rest := by
  constructor
  · rintro ⟨written, hwritten, heq⟩
    cases hwritten with
    | intro hne hclose =>
        rw [List.nil_append, List.cons_append, List.append_assoc, List.cons.injEq] at heq
        exact ⟨heq.1, hne, hclose, heq.2⟩
  · rintro ⟨rfl, hne, hclose, rfl⟩
    exact ⟨_, .intro hne hclose, by simp⟩

theorem not_occurs_tag_iff {c : Char} :
    (∀ inside rest, ¬ Occurs IsTag (c :: text) [] inside rest) ↔
      (c = '<' → afterTag? text = none) := by
  simp only [occurs_tag_iff, Option.eq_none_iff_forall_ne_some, ne_eq, afterTag?_eq_some_iff]
  constructor
  · rintro h rfl rest ⟨inside, htag⟩
    exact h inside rest ⟨rfl, htag⟩
  · rintro h inside rest ⟨hc, htag⟩
    exact h hc rest ⟨inside, htag⟩

theorem unambiguous_tag : Unambiguous IsTag := by
  intro text a b rest rest' ha hb
  cases text with
  | nil =>
      obtain ⟨written, hwritten, heq⟩ := ha
      cases hwritten
      cases heq
  | cons c text =>
      obtain ⟨-, -, hclose, htext⟩ := occurs_tag_iff.mp ha
      obtain ⟨-, -, hclose', htext'⟩ := occurs_tag_iff.mp hb
      rw [htext] at htext'
      have hinside : a = b := by
        rw [← (takeWhile_dropWhile_ne hclose rest).1, htext',
        (takeWhile_dropWhile_ne hclose' rest').1]
      rw [hinside, List.append_cancel_left_eq, List.cons.injEq] at htext'
      exact ⟨hinside, htext'.2⟩

/-- No tag occurs anywhere in the text. -/
def HasNoTag (text : List Char) : Prop := ∀ front inside rest, ¬ Occurs IsTag text front inside rest

theorem hasNoTag_nil : HasNoTag [] := by
  rintro front inside rest ⟨written, hwritten, hnil⟩
  cases hwritten
  simp at hnil

/-- What stands outside the tags is what the successive occurrences leave. -/
theorem cut_outsideTags (text : List Char) :
    ∃ pieces last, Cut IsTag text pieces last ∧ outside pieces last = outsideTags text := by
  fun_induction outsideTags text with
  | case1 => exact ⟨[], [], .last hasNoTag_nil, rfl⟩
  | case2 rest after hafter ih =>
      obtain ⟨pieces, last, hcut, hout⟩ := ih
      obtain ⟨inside, hne, hclose, rfl⟩ := afterTag?_eq_some_iff.mp hafter
      refine ⟨_, last, hcut.start (a := inside) ?_, hout⟩
      exact occurs_tag_iff.mpr ⟨rfl, hne, hclose, rfl⟩
  | case3 rest hnone ih =>
      obtain ⟨pieces, last, hcut, hout⟩ := ih
      obtain ⟨pieces', last', hcut', -, hout'⟩ :=
        hcut.skip (not_occurs_tag_iff.mpr fun _ => hnone)
      exact ⟨pieces', last', hcut', by rw [hout', hout]⟩
  | case4 c rest hc ih =>
      obtain ⟨pieces, last, hcut, hout⟩ := ih
      obtain ⟨pieces', last', hcut', -, hout'⟩ :=
        hcut.skip (not_occurs_tag_iff.mpr fun heq => absurd heq hc)
      exact ⟨pieces', last', hcut', by rw [hout', hout]⟩

theorem hasNoTag_cons_iff {c : Char} :
    HasNoTag (c :: text) ↔ (c = '<' → afterTag? text = none) ∧ HasNoTag text := by
  rw [← not_occurs_tag_iff]
  constructor
  · intro h
    refine ⟨h [], ?_⟩
    intro front inside rest hoccurs
    exact h (c :: front) inside rest (occurs_cons_iff.mpr ⟨rfl, hoccurs⟩)
  · rintro ⟨hstart, htext⟩ front inside rest hoccurs
    cases front with
    | nil => exact hstart inside rest hoccurs
    | cons d front => exact htext front inside rest (occurs_cons_iff.mp hoccurs).2

theorem HasNoTag.of_isInfix {part : List Char} (h : HasNoTag text) (hpart : part <:+: text) :
    HasNoTag part := by
  obtain ⟨before, after, rfl⟩ := hpart
  rintro front inside rest ⟨written, hwritten, rfl⟩
  exact h (before ++ front) inside (rest ++ after) ⟨written, hwritten, by simp⟩

theorem mem_of_mem_outsideTags {c : Char} (h : c ∈ outsideTags text) : c ∈ text := by
  fun_induction outsideTags text with
  | case1 => cases h
  | case2 rest after hafter ih =>
      obtain ⟨inside, -, -, rfl⟩ := afterTag?_eq_some_iff.mp hafter
      exact List.mem_cons_of_mem _ (List.mem_append_right _ (List.mem_cons_of_mem _ (ih h)))
  | case3 rest _ ih | case4 _ rest _ ih =>
      rcases List.mem_cons.mp h with rfl | h
      · exact List.mem_cons_self
      · exact List.mem_cons_of_mem _ (ih h)

theorem hasNoTag_outsideTags (text : List Char) : HasNoTag (outsideTags text) := by
  fun_induction outsideTags text with
  | case1 => exact hasNoTag_nil
  | case2 rest after hafter ih => exact ih
  | case3 rest hnone ih =>
      refine hasNoTag_cons_iff.mpr ⟨fun _ => afterTag?_eq_none_iff.mpr ?_, ih⟩
      rcases afterTag?_eq_none_iff.mp hnone with hhead | hmem
      · obtain ⟨tail, rfl⟩ := List.head?_eq_some_iff.mp hhead
        refine .inl ?_
        rw [outsideTags, if_neg (by decide)]
        rfl
      · exact .inr fun h => hmem (mem_of_mem_outsideTags h)
  | case4 c rest hc ih => exact hasNoTag_cons_iff.mpr ⟨fun heq => absurd heq hc, ih⟩

theorem outsideTags_eq_self (h : HasNoTag text) : outsideTags text = text := by
  fun_induction outsideTags text with
  | case1 => rfl
  | case2 rest after hafter ih =>
      rw [(hasNoTag_cons_iff.mp h).1 rfl] at hafter
      cases hafter
  | case3 rest hnone ih | case4 c rest hc ih => rw [ih (hasNoTag_cons_iff.mp h).2]

theorem tagName?_eq_none (h : HasNoTag text) : tagName? text = none := by
  induction text with
  | nil => rfl
  | cons c rest ih =>
      obtain ⟨hstart, hrest⟩ := hasNoTag_cons_iff.mp h
      rw [tagName?, ih hrest, if_neg]
      rintro ⟨hc, hname, hclose⟩
      rcases afterTag?_eq_none_iff.mp (hstart hc) with hhead | hmem
      · obtain ⟨tail, rfl⟩ := List.head?_eq_some_iff.mp hhead
        have hblank : isBlank '>' = false := by decide
        have hword : isWord '>' = false := by decide +kernel
        exact hname (by simp [hblank, hword])
      · exact hmem hclose

theorem filter_collapseAfter (written : Bool) (text : List Char) :
    (collapseAfter written text).filter isVisible = text.filter isVisible := by
  induction text generalizing written with
  | nil => rfl
  | cons c rest ih =>
      have hspace : isVisible ' ' = false := by decide
      rw [collapseAfter]
      split
      · next hblank =>
          have hc : isVisible c = false := by simp [isVisible, hblank]
          split
          · rw [ih, List.filter_cons_of_neg (by simp [hc])]
          · rw [List.filter_cons_of_neg (by simp [hspace]), ih,
              List.filter_cons_of_neg (by simp [hc])]
      · next hblank =>
          have hc : isVisible c := by simp [isVisible, hblank]
          rw [List.filter_cons_of_pos hc, ih, List.filter_cons_of_pos hc]

theorem hasNoTag_collapseAfter (written : Bool) (h : HasNoTag text) :
    HasNoTag (collapseAfter written text) := by
  induction text generalizing written with
  | nil => exact hasNoTag_nil
  | cons c rest ih =>
      obtain ⟨hstart, hrest⟩ := hasNoTag_cons_iff.mp h
      rw [collapseAfter]
      split
      · split
        · exact ih true hrest
        · exact hasNoTag_cons_iff.mpr ⟨fun heq => absurd heq (by decide), ih true hrest⟩
      · refine hasNoTag_cons_iff.mpr ⟨fun hc => afterTag?_eq_none_iff.mpr ?_, ih false hrest⟩
        rcases afterTag?_eq_none_iff.mp (hstart hc) with hhead | hmem
        · obtain ⟨tail, rfl⟩ := List.head?_eq_some_iff.mp hhead
          exact .inl rfl
        · refine .inr fun hclose => hmem ?_
          have hvisible : '>' ∈ (collapseAfter false rest).filter isVisible :=
            List.mem_filter.mpr ⟨hclose, by decide⟩
          rw [filter_collapseAfter] at hvisible
          exact (List.mem_filter.mp hvisible).1

/-- The only blanks are spaces, and no two of them stand side by side. -/
structure IsCollapsed (text : List Char) : Prop where
  spaces : ∀ c ∈ text, isBlank c → c = ' '
  single : text.IsChain fun c d => isVisible c ∨ isVisible d

theorem head_collapseAfter_true (text : List Char) :
    ∀ c ∈ (collapseAfter true text).head?, isVisible c := by
  induction text with
  | nil => exact nofun
  | cons c rest ih =>
      rw [collapseAfter]
      split
      · exact ih
      · next hblank =>
          intro d hd
          cases hd
          simp [isVisible, hblank]

theorem isCollapsed_collapseAfter (written : Bool) (text : List Char) :
    IsCollapsed (collapseAfter written text) := by
  induction text generalizing written with
  | nil => exact ⟨nofun, .nil⟩
  | cons c rest ih =>
      rw [collapseAfter]
      split
      · split
        · exact ih true
        · constructor
          · intro d hd hblank
            rcases List.mem_cons.mp hd with rfl | hd
            · rfl
            · exact (ih true).spaces d hd hblank
          · exact (ih true).single.cons fun d hd => .inr (head_collapseAfter_true rest d hd)
      · next hvisible =>
          constructor
          · intro d hd hblank
            rcases List.mem_cons.mp hd with rfl | hd
            · exact absurd hblank hvisible
            · exact (ih false).spaces d hd hblank
          · exact (ih false).single.cons fun d hd => .inl (by simp [isVisible, hvisible])

theorem IsCollapsed.of_isInfix {part : List Char} (h : IsCollapsed text)
    (hpart : part <:+: text) : IsCollapsed part := by
  refine ⟨fun c hc => h.spaces c (hpart.subset hc), ?_⟩
  obtain ⟨before, after, rfl⟩ := hpart
  exact h.single.left_of_append.right_of_append

theorem IsCollapsed.collapseAfter_eq (h : IsCollapsed text) {written : Bool}
    (hhead : written = false ∨ ∀ c ∈ text.head?, isVisible c) :
    collapseAfter written text = text := by
  induction text generalizing written with
  | nil => rfl
  | cons c rest ih =>
      have hrest : IsCollapsed rest := h.of_isInfix (List.suffix_cons c rest).isInfix
      rw [collapseAfter]
      split
      · next hblank =>
          have hc : isVisible c = false := by simp [isVisible, hblank]
          split
          · next hwritten =>
              rcases hhead with hfalse | hvisible
              · rw [hfalse] at hwritten
                cases hwritten
              · have hcontra := hvisible c rfl
                rw [hc] at hcontra
                cases hcontra
          · have hnext : ∀ d ∈ rest.head?, isVisible d := by
              intro d hd
              exact (h.single.rel_head? hd).resolve_left (by simp [hc])
            rw [← h.spaces c List.mem_cons_self hblank, ih hrest (.inr hnext)]
      · rw [ih hrest (.inl rfl)]

/-- A visible text in normal form: without blanks at the ends, without other blanks than single
spaces, and without tags. -/
structure IsNormal (text : List Char) : Prop where
  trimmed : IsTrimmed text
  collapsed : IsCollapsed text
  noTag : HasNoTag text

theorem isNormal_visible (text : List Char) : IsNormal (visible text) := by
  have hpart : visible text <:+: collapse (outsideTags text) := trim_isInfix _
  exact ⟨isTrimmed_trim _, (isCollapsed_collapseAfter false _).of_isInfix hpart,
    (hasNoTag_collapseAfter false (hasNoTag_outsideTags text)).of_isInfix hpart⟩

theorem IsNormal.visible_eq (h : IsNormal text) : visible text = text := by
  rw [visible, outsideTags_eq_self h.noTag, collapse, h.collapsed.collapseAfter_eq (.inl rfl),
    h.trimmed.trim_eq]

theorem filter_visible (text : List Char) :
    (visible text).filter isVisible = (outsideTags text).filter isVisible := by
  rw [visible, filter_trim, collapse, filter_collapseAfter]

theorem visible_eq_nil_iff (text : List Char) :
    visible text = [] ↔ ∀ c ∈ outsideTags text, isBlank c := by
  have hall : (visible text).filter isVisible = [] ↔ ∀ c ∈ outsideTags text, isBlank c := by
    rw [filter_visible, List.filter_eq_nil_iff]
    simp [isVisible]
  rw [← hall]
  constructor
  · intro h
    rw [h]
    rfl
  · intro h
    cases hvisible : visible text with
    | nil => rfl
    | cons c rest =>
        have hc := (isNormal_visible text).trimmed.head c (by rw [hvisible]; rfl)
        rw [hvisible, List.filter_cons_of_pos hc] at h
        cases h

theorem read_of_isNormal {t : String} (h : IsNormal t.toList) (hne : t.toList ≠ []) :
    read t = { text := some t, tag := none, inputType := none } := by
  simp only [read, h.visible_eq, if_neg hne, tagName?_eq_none h.noTag, String.ofList_toList,
    Option.map_none]
  rfl

/-- The visible text is what stands outside the tags but for blanks. It is in normal form, and reads
as itself. -/
theorem visible_in_normal_form (html : String) :
    ∃ pieces last, Cut IsTag html.toList pieces last ∧
      (∀ pieces' last', Cut IsTag html.toList pieces' last' →
        pieces' = pieces ∧ last' = last) ∧
      ((read html).text = none ↔ ∀ c ∈ outside pieces last, isBlank c) ∧
      ∀ t, (read html).text = some t →
        t.toList.filter isVisible = (outside pieces last).filter isVisible ∧ IsNormal t.toList ∧
          read t = { text := some t, tag := none, inputType := none } := by
  obtain ⟨pieces, last, hcut, hout⟩ := cut_outsideTags html.toList
  refine ⟨pieces, last, hcut, fun _ _ hcut' => hcut.unique unambiguous_tag hcut', ?_, ?_⟩
  · rw [hout, ← visible_eq_nil_iff]
    simp [read]
  · intro t ht
    have hvisible : visible html.toList ≠ [] ∧ t = String.ofList (visible html.toList) := by
      simp only [read] at ht
      split at ht
      · cases ht
      · next hne =>
          cases ht
          exact ⟨hne, rfl⟩
    obtain ⟨hne, rfl⟩ := hvisible
    rw [String.toList_ofList, hout]
    refine ⟨filter_visible _, isNormal_visible _, read_of_isNormal ?_ ?_⟩
    · rw [String.toList_ofList]
      exact isNormal_visible _
    · rw [String.toList_ofList]
      exact hne

/-- Brackets that enclose nothing, and one that stays open, are no tags. -/
theorem visible_in_normal_form_brackets :
    let html := "<i>a</i>  <> b<br>\n< c"
    (read html).text = some "a <> b < c" ∧ IsNormal "a <> b < c".toList ∧
      read "a <> b < c" = { text := some "a <> b < c", tag := none, inputType := none } := by
  intro html
  have htext : (read html).text = some "a <> b < c" := by decide +kernel
  obtain ⟨_, _, -, -, -, hnormal⟩ := visible_in_normal_form html
  obtain ⟨-, hnormal, hagain⟩ := hnormal _ htext
  exact ⟨htext, hnormal, hagain⟩

end Retrace.Fragment
