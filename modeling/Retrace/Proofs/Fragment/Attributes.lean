import Retrace.Fragment
import Retrace.Proofs.Entries
import Retrace.Proofs.Text.Blank
import Retrace.Proofs.Text.Occurrences

/-!
The attributes of a fragment, against the pattern that they are written in. The scan finds the
successive occurrences of the pattern, wherever a malformed fragment makes it begin anew, and what
was found is gathered under lower-case names.
-/

namespace Retrace.Fragment

open Text

/-- How an attribute is written: its name, an equals sign with blanks around it, and its value in
double quotes. -/
inductive IsAttribute : List Char × List Char → List Char → Prop
  | intro {name before after value : List Char} (hne : name ≠ [])
      (hname : ∀ c ∈ name, isNameChar c) (hbefore : ∀ c ∈ before, isBlank c)
      (hafter : ∀ c ∈ after, isBlank c) (hvalue : '"' ∉ value) :
      IsAttribute (name, value) (name ++ (before ++ '=' :: (after ++ '"' :: (value ++ ['"']))))

theorem IsAttribute.cons {c : Char} {name value written : List Char} (hc : isNameChar c)
    (h : IsAttribute (name, value) written) : IsAttribute (c :: name, value) (c :: written) := by
  cases h with
  | intro hne hname hbefore hafter hvalue =>
      refine .intro (List.cons_ne_nil c name) ?_ hbefore hafter hvalue
      intro d hd
      rcases List.mem_cons.mp hd with rfl | hd
      · exact hc
      · exact hname d hd

theorem not_isNameChar_of_isBlank {c : Char} (h : isBlank c) : isNameChar c = false := by
  have hword : isWord c = false := by
    by_contra hword
    rw [Bool.not_eq_false] at hword
    rw [not_isBlank_of_isWord hword] at h
    cases h
  have hcolon : c ≠ ':' := by
    rintro rfl
    exact absurd h (by decide)
  have hdash : c ≠ '-' := by
    rintro rfl
    exact absurd h (by decide)
  simp [isNameChar, hword, hcolon, hdash]

/-- The value of an attribute ends at the first quote. -/
theorem quote_notMem_attributeValue {text value after : List Char}
    (h : attributeValue? text = some (value, after)) : '"' ∉ value := by
  unfold attributeValue? at h
  split at h
  · split at h
    · split at h
      · cases h
        exact notMem_takeWhile_ne _ _
      · cases h
    · cases h
  · cases h

theorem quote_notMem_occurrence {text : List Char} {o : List Char × List Char}
    (h : o ∈ occurrences text) : '"' ∉ o.2 := by
  fun_induction occurrences text with
  | case1 => cases h
  | case2 c rest _ value after hvalue ih =>
      rcases List.mem_cons.mp h with rfl | hrest
      · exact quote_notMem_attributeValue hvalue
      · exact ih hrest
  | case3 _ _ _ _ ih => exact ih h
  | case4 _ _ _ ih => exact ih h

/-- The value is what stands between the quotes that follow the blanks and the sign. -/
theorem attributeValue?_eq_some_iff {text value rest : List Char} :
    attributeValue? text = some (value, rest) ↔
      ∃ before after, (∀ c ∈ before, isBlank c) ∧ (∀ c ∈ after, isBlank c) ∧ '"' ∉ value ∧
        text = before ++ '=' :: (after ++ '"' :: (value ++ '"' :: rest)) := by
  constructor
  · intro h
    have hvalue := quote_notMem_attributeValue h
    unfold attributeValue? at h
    split at h
    · next text' hequals =>
        split at h
        · next text'' hopen =>
            split at h
            · next c rest' hclose =>
                cases h
                refine ⟨text.takeWhile isBlank, text'.takeWhile isBlank,
                  fun c hc => List.mem_takeWhile_imp hc, fun c hc => List.mem_takeWhile_imp hc,
                  hvalue, ?_⟩
                rw [← eq_append_of_dropWhile_ne hclose, ← hopen, List.takeWhile_append_dropWhile,
                  ← hequals, List.takeWhile_append_dropWhile]
            · cases h
        · cases h
    · cases h
  · rintro ⟨before, after, hbefore, hafter, hvalue, rfl⟩
    obtain ⟨htake, hdrop⟩ := takeWhile_dropWhile_ne hvalue rest
    have hequals : isBlank '=' = false := by decide
    have hopen : isBlank '"' = false := by decide
    simp [attributeValue?, List.dropWhile_append_of_pos hbefore,
      List.dropWhile_append_of_pos hafter, hequals, hopen, htake, hdrop]

variable {text rest : List Char} {o : List Char × List Char}

/-- Where a fragment begins with an attribute, its name is as long as it can be. -/
theorem occurs_attribute_iff :
    Occurs IsAttribute text [] o rest ↔
      o.1 ≠ [] ∧ text.takeWhile isNameChar = o.1 ∧
        attributeValue? (text.dropWhile isNameChar) = some (o.2, rest) := by
  obtain ⟨name, value⟩ := o
  rw [attributeValue?_eq_some_iff]
  constructor
  · rintro ⟨written, hwritten, rfl⟩
    cases hwritten with
    | @intro _ before after _ hne hname hbefore hafter hvalue =>
        have hstop : ∀ tail : List Char,
            (before ++ '=' :: tail).takeWhile isNameChar = [] ∧
              (before ++ '=' :: tail).dropWhile isNameChar = before ++ '=' :: tail := by
          intro tail
          cases before with
          | nil =>
              have hequals : isNameChar '=' = false := by decide +kernel
              simp [hequals]
          | cons c before =>
              have hc := not_isNameChar_of_isBlank (hbefore c List.mem_cons_self)
              simp [hc]
        have htext : [] ++ (name ++ (before ++ '=' :: (after ++ '"' :: (value ++ ['"']))) ++ rest) =
            name ++ (before ++ '=' :: (after ++ '"' :: (value ++ '"' :: rest))) := by
          simp
        refine ⟨hne, ?_, before, after, hbefore, hafter, hvalue, ?_⟩
        · rw [htext, List.takeWhile_append_of_pos hname, (hstop _).1, List.append_nil]
        · rw [htext, List.dropWhile_append_of_pos hname, (hstop _).2]
  · rintro ⟨hne, hname, before, after, hbefore, hafter, hvalue, htail⟩
    dsimp only at hname
    refine ⟨_, .intro hne ?_ hbefore hafter hvalue, ?_⟩
    · rw [← hname]
      intro c hc
      exact List.mem_takeWhile_imp hc
    · rw [← List.takeWhile_append_dropWhile (p := isNameChar) (l := text), hname, htail]
      simp

theorem IsAttribute.takeWhile_eq {written : List Char} (h : IsAttribute o written) :
    written.takeWhile isNameChar = o.1 := by
  have hoccurs : Occurs IsAttribute written [] o [] := ⟨written, h, by simp⟩
  exact (occurs_attribute_iff.mp hoccurs).2.1

theorem unambiguous_attribute : Unambiguous IsAttribute := by
  intro text a b rest rest' ha hb
  obtain ⟨-, hname, hvalue⟩ := occurs_attribute_iff.mp ha
  obtain ⟨-, hname', hvalue'⟩ := occurs_attribute_iff.mp hb
  rw [hvalue, Option.some.injEq, Prod.mk.injEq] at hvalue'
  exact ⟨Prod.ext (hname.symm.trans hname') hvalue'.1, hvalue'.2⟩

/-- No attribute begins within a longest run of name characters that no value follows. -/
theorem cut_run {run : List Char} {pieces : List (List Char × (List Char × List Char))}
    {last : List Char} (hrun : ∀ c ∈ run, isNameChar c) (hend : text.dropWhile isNameChar = text)
    (hnone : attributeValue? text = none) (h : Cut IsAttribute text pieces last) :
    ∃ pieces' last', Cut IsAttribute (run ++ text) pieces' last' ∧
      pieces'.map Prod.snd = pieces.map Prod.snd := by
  induction run with
  | nil => exact ⟨pieces, last, h, rfl⟩
  | cons c run ih =>
      obtain ⟨pieces', last', hcut, hfound⟩ := ih fun d hd => hrun d (List.mem_cons_of_mem _ hd)
      have hnot : ∀ o rest, ¬ Occurs IsAttribute (c :: (run ++ text)) [] o rest := by
        intro o rest hoccurs
        obtain ⟨-, -, hvalue⟩ := occurs_attribute_iff.mp hoccurs
        rw [← List.cons_append, List.dropWhile_append_of_pos hrun, hend, hnone] at hvalue
        cases hvalue
      obtain ⟨pieces'', last'', hcut', hfound', -⟩ := hcut.skip hnot
      exact ⟨pieces'', last'', hcut', hfound'.trans hfound⟩

/-- The attributes that are scanned are the successive occurrences. -/
theorem cut_occurrences (text : List Char) :
    ∃ pieces last, Cut IsAttribute text pieces last ∧
      pieces.map Prod.snd = occurrences text := by
  fun_induction occurrences text with
  | case1 =>
      refine ⟨[], [], .last ?_, rfl⟩
      rintro front o rest ⟨written, hwritten, hnil⟩
      cases hwritten
      simp at hnil
  | case2 c rest hc value after hvalue ih =>
      obtain ⟨pieces, last, hcut, hfound⟩ := ih
      refine ⟨_, last, hcut.start (a := (c :: rest.takeWhile isNameChar, value)) ?_, ?_⟩
      · rw [occurs_attribute_iff, List.takeWhile_cons_of_pos hc, List.dropWhile_cons_of_pos hc]
        exact ⟨List.cons_ne_nil _ _, rfl, hvalue⟩
      · rw [List.map_cons, hfound]
  | case3 c rest hc hnone ih =>
      obtain ⟨pieces, last, hcut, hfound⟩ := ih
      have hrun : ∀ d ∈ c :: rest.takeWhile isNameChar, isNameChar d := by
        intro d hd
        rcases List.mem_cons.mp hd with rfl | hd
        · exact hc
        · exact List.mem_takeWhile_imp hd
      obtain ⟨pieces', last', hcut', hfound'⟩ :=
        cut_run hrun (List.dropWhile_idempotent isNameChar rest) hnone hcut
      rw [List.cons_append, List.takeWhile_append_dropWhile] at hcut'
      exact ⟨pieces', last', hcut', hfound'.trans hfound⟩
  | case4 c rest hc ih =>
      obtain ⟨pieces, last, hcut, hfound⟩ := ih
      have hnot : ∀ o rest', ¬ Occurs IsAttribute (c :: rest) [] o rest' := by
        intro o rest' hoccurs
        obtain ⟨hne, hname, -⟩ := occurs_attribute_iff.mp hoccurs
        rw [List.takeWhile_cons_of_neg hc] at hname
        exact hne hname.symm
      obtain ⟨pieces', last', hcut', hfound', -⟩ := hcut.skip hnot
      exact ⟨pieces', last', hcut', hfound'.trans hfound⟩

/-- A name is preceded by no character that could belong to it. -/
theorem not_isNameChar_of_cut {text last : List Char}
    {pieces : List (List Char × (List Char × List Char))} (h : Cut IsAttribute text pieces last) :
    ∀ piece ∈ pieces, ∀ c ∈ piece.1.getLast?, isNameChar c = false := by
  induction h with
  | last => exact nofun
  | @next text front rest last o pieces hoccurs hfirst _ ih =>
      intro piece hpiece
      rcases List.mem_cons.mp hpiece with rfl | hpiece
      · intro c hc
        by_contra hchar
        rw [Bool.not_eq_false] at hchar
        obtain ⟨front, rfl⟩ := List.getLast?_eq_some_iff.mp hc
        obtain ⟨written, hwritten, rfl⟩ := hoccurs
        have hearlier : Occurs IsAttribute (front ++ [c] ++ (written ++ rest)) front
            (c :: o.1, o.2) rest := ⟨c :: written, hwritten.cons hchar, by simp⟩
        have hlength := hfirst _ _ _ hearlier
        rw [List.length_append, List.length_singleton] at hlength
        omega
      · exact ih piece hpiece

theorem attributes_eq_gather (html : String) :
    attributes html =
      Entries.gather (fun o => lowerText o.1) (fun o => String.ofList o.2)
        (occurrences html.toList) := rfl

theorem quote_notMem_attribute {html : String} {entry : String × String}
    (h : entry ∈ attributes html) : '"' ∉ entry.2.toList := by
  rw [attributes_eq_gather] at h
  obtain ⟨before, o, after, hfound, -, hvalue, -⟩ := Entries.mem_gather_iff.mp h
  have ho : o ∈ occurrences html.toList := by
    rw [hfound]
    exact List.mem_append_right _ List.mem_cons_self
  rw [← hvalue, String.toList_ofList]
  exact quote_notMem_occurrence ho

/-- The attributes are those of the successive occurrences: each lower-case name once, where it
occurs first, with the value that it has where it occurs last. A name that occurs is a longest run
of name characters: the one before it is none, and so is the one after it. -/
theorem attributes_of_cut (html : String) :
    ∃ pieces last, Cut IsAttribute html.toList pieces last ∧
      (∀ pieces' last', Cut IsAttribute html.toList pieces' last' →
        pieces' = pieces ∧ last' = last) ∧
      (∀ piece ∈ pieces, ∀ c ∈ piece.1.getLast?, isNameChar c = false) ∧
      (∀ o written, IsAttribute o written → written.takeWhile isNameChar = o.1) ∧
      let found := pieces.map Prod.snd
      (attributes html).map Prod.fst = (found.map fun o => lowerText o.1).eraseDups ∧
      ((attributes html).map Prod.fst).Nodup ∧
      (∀ name value, (name, value) ∈ attributes html ↔
        Entries.LastGiven (fun o => lowerText o.1) (fun o => String.ofList o.2) found name value) ∧
      ∀ entry ∈ attributes html, '"' ∉ entry.2.toList := by
  obtain ⟨pieces, last, hcut, hfound⟩ := cut_occurrences html.toList
  refine ⟨pieces, last, hcut, ?_, not_isNameChar_of_cut hcut, fun _ _ h => h.takeWhile_eq, ?_⟩
  · intro pieces' last' hcut'
    exact hcut.unique unambiguous_attribute hcut'
  · dsimp only
    rw [hfound, attributes_eq_gather]
    refine ⟨Entries.names_gather _, Entries.nodup_names_gather _, ?_, ?_⟩
    · intro name value
      exact Entries.mem_gather_iff
    · intro entry hentry
      exact quote_notMem_attribute hentry

/-- A name that occurs twice, blanks around the sign, single quotes and a quote that stays open. -/
example : attributes "<a X=\"1\" y = \"2\"x=\"3\" z=' q=\"4\"' w=\"5>" =
    [("x", "3"), ("y", "2"), ("q", "4")] := by
  decide +kernel

end Retrace.Fragment
