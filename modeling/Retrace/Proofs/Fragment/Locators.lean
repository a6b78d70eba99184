import Retrace.Proofs.Plan.Quotations

/-!
The priority of locators. There is one chain of candidates, and an element is found by the first of
them that its target gives; where the attributes stand in the markup plays no part.
-/

namespace Retrace

open Text

namespace Fragment

/-- The value that an attribute has in a fragment: of all that occur under its name in any case of
letters, the last one. -/
def IsFinalValue (html name value : String) : Prop :=
  ∃ pieces last, Cut IsAttribute html.toList pieces last ∧
    Entries.LastGiven (fun o => lowerText o.1) (fun o => String.ofList o.2) (pieces.map Prod.snd)
      name value

theorem lookup_attributes_iff {html name value : String} :
    (attributes html).lookup name = some value ↔ IsFinalValue html name value := by
  obtain ⟨pieces, last, hcut, hfound⟩ := cut_occurrences html.toList
  rw [attributes_eq_gather, Entries.lookup_gather_iff, ← hfound]
  constructor
  · intro h
    exact ⟨pieces, last, hcut, h⟩
  · rintro ⟨pieces', last', hcut', h⟩
    obtain ⟨rfl, -⟩ := hcut.unique unambiguous_attribute hcut'
    exact h

theorem quote_notMem_finalValue {html name value : String} (h : IsFinalValue html name value) :
    '"' ∉ value.toList :=
  quote_notMem_attribute (Entries.mem_of_lookup (lookup_attributes_iff.mpr h))

end Fragment

namespace Locator

/-- What an element may be found by. -/
inductive Candidate where
  | byId
  /-- By the value of an attribute, for elements of the given tag, or of any. -/
  | byAttribute (wanted : Option String) (name : String)
  | byText
deriving DecidableEq

/-- From the most to the least reliable. -/
def candidates : List Candidate :=
  [.byId,
    .byAttribute none "data-testid", .byAttribute none "data-test",
    .byAttribute none "data-automation", .byAttribute none "aria-label",
    .byAttribute none "aria-controls", .byAttribute none "data-bs-target",
    .byAttribute none "name", .byAttribute none "title", .byAttribute none "placeholder",
    .byAttribute (some "img") "alt", .byAttribute (some "img") "src",
    .byAttribute (some "a") "href", .byAttribute (some "option") "value",
    .byAttribute (some "input") "value",
    .byText]

/-- A candidate applies to a target and gives a locator. -/
inductive Candidate.Gives (t : Target) : Candidate → Locator → Prop
  | byId {id : String} (hid : t.targetId = some id) (hne : id ≠ "") :
      Gives t .byId (.css ("#" ++ id))
  | byAttribute {wanted : Option String} {name value : String}
      (htag : wanted = none ∨ (Fragment.read t.markup).tag = wanted)
      (hvalue : Fragment.IsFinalValue t.markup name value) (hne : value ≠ "") :
      Gives t (.byAttribute wanted name)
        (.css (attributeSelector (Fragment.read t.markup).tag name value))
  | byText {text : String} (htext : (Fragment.read t.markup).text = some text) :
      Gives t .byText (.text text (Fragment.read t.markup).tag)

namespace Traits

/-- The locator that a candidate gives, if it applies. -/
def give? (t : Traits) : Candidate → Option Locator
  | .byId => t.idLocator?
  | .byAttribute wanted name =>
      if wanted = none ∨ t.tag = wanted then t.attributeLocator? name else none
  | .byText => t.textLocator?

theorem locator?_eq_findSome? (t : Traits) : t.locator? = candidates.findSome? t.give? := by
  have hchain : candidates = [.byId] ++ (stableAttributes.map (Candidate.byAttribute none) ++
      (tagAttributes.map (fun row => .byAttribute (some row.1) row.2) ++ [.byText])) := rfl
  have hid : [Candidate.byId].findSome? t.give? = t.idLocator? := by simp [give?]
  have hstable : (stableAttributes.map (Candidate.byAttribute none)).findSome? t.give? =
      t.stableLocator? := by
    rw [List.findSome?_map]
    rfl
  have htag : (tagAttributes.map fun row => Candidate.byAttribute (some row.1) row.2).findSome?
      t.give? = t.tagLocator? := by
    rw [List.findSome?_map, tagLocator?, ← List.head?_filterMap, ← List.head?_filterMap,
      List.filterMap_filter]
    congr 2
    funext row
    simp [give?]
  have htext : [Candidate.byText].findSome? t.give? = t.textLocator? := by simp [give?]
  rw [hchain, List.findSome?_append, List.findSome?_append, List.findSome?_append, hid, hstable,
    htag, htext]
  rfl

end Traits

theorem give?_eq_some_iff {t : Target} {c : Candidate} {locator : Locator} :
    t.traits.give? c = some locator ↔ c.Gives t locator := by
  constructor
  · intro h
    cases c with
    | byId =>
        obtain ⟨id, hid, rfl⟩ := Option.map_eq_some_iff.mp h
        obtain ⟨hid, hne⟩ := Option.filter_eq_some_iff.mp hid
        exact .byId hid (of_decide_eq_true hne)
    | byAttribute wanted name =>
        rw [Traits.give?] at h
        split at h
        · next htag =>
            obtain ⟨value, hvalue, rfl⟩ := Option.map_eq_some_iff.mp h
            obtain ⟨hvalue, hne⟩ := Option.filter_eq_some_iff.mp hvalue
            exact .byAttribute htag (Fragment.lookup_attributes_iff.mp hvalue)
              (of_decide_eq_true hne)
        · cases h
    | byText =>
        obtain ⟨text, htext, rfl⟩ := Option.map_eq_some_iff.mp h
        exact .byText htext
  · intro h
    cases h with
    | @byId id hid hne =>
        have hsome : t.traits.id.filter (· ≠ "") = some id :=
          Option.filter_eq_some_iff.mpr ⟨hid, decide_eq_true hne⟩
        exact congrArg (Option.map _) hsome
    | @byAttribute wanted name value htag hvalue hne =>
        have happlies : t.traits.give? (.byAttribute wanted name) =
            t.traits.attributeLocator? name := if_pos htag
        have hsome : t.traits.attribute? name = some value :=
          Option.filter_eq_some_iff.mpr
            ⟨Fragment.lookup_attributes_iff.mpr hvalue, decide_eq_true hne⟩
        rw [happlies, Traits.attributeLocator?, hsome]
        rfl
    | byText htext => exact congrArg (Option.map _) htext

theorem give?_eq_none_iff {t : Target} {c : Candidate} :
    t.traits.give? c = none ↔ ∀ locator, ¬ c.Gives t locator := by
  rw [Option.eq_none_iff_forall_ne_some]
  exact forall_congr' fun locator => not_congr give?_eq_some_iff

/-- What a candidate gives is seen in the tag, the visible text and the final values. -/
theorem Candidate.Gives.of_alike {t other : Target} {c : Candidate} {locator : Locator}
    (h : c.Gives t locator) (hid : t.targetId.getD "" = "")
    (htag : (Fragment.read t.markup).tag = (Fragment.read other.markup).tag)
    (htext : (Fragment.read t.markup).text = (Fragment.read other.markup).text)
    (hvalues : ∀ name value, Fragment.IsFinalValue t.markup name value →
      Fragment.IsFinalValue other.markup name value) : c.Gives other locator := by
  cases h with
  | byId hsome hne =>
      rw [hsome] at hid
      exact absurd hid hne
  | byAttribute hwanted hvalue hne =>
      rw [htag] at hwanted ⊢
      exact .byAttribute hwanted (hvalues _ _ hvalue) hne
  | byText hsome =>
      rw [htext] at hsome
      rw [htag]
      exact .byText hsome

end Locator

namespace Target

open Locator

/-- The locator of a target is what the first candidate that applies gives, and there is none if no
candidate applies. Markups that show the same tag, text and final values are located alike. -/
theorem located_by_priority (t : Target) :
    (∀ locator, t.locator? = some locator ↔
      ∃ before c after, candidates = before ++ c :: after ∧ c.Gives t locator ∧
        ∀ earlier ∈ before, ∀ other, ¬ earlier.Gives t other) ∧
      (t.locator? = none ↔ ∀ c ∈ candidates, ∀ locator, ¬ c.Gives t locator) ∧
      (∀ name value, Fragment.IsFinalValue t.markup name value → '"' ∉ value.toList) ∧
      ∀ other : Target, t.targetId.getD "" = "" → other.targetId.getD "" = "" →
        (Fragment.read t.markup).tag = (Fragment.read other.markup).tag →
        (Fragment.read t.markup).text = (Fragment.read other.markup).text →
        (∀ name value, Fragment.IsFinalValue t.markup name value ↔
          Fragment.IsFinalValue other.markup name value) →
        t.locator? = other.locator? := by
  refine ⟨?_, ?_, fun name value => Fragment.quote_notMem_finalValue, ?_⟩
  · intro locator
    rw [Target.locator?, Traits.locator?_eq_findSome?, List.findSome?_eq_some_iff]
    simp only [give?_eq_some_iff, give?_eq_none_iff]
  · rw [Target.locator?, Traits.locator?_eq_findSome?, List.findSome?_eq_none_iff]
    simp only [give?_eq_none_iff]
  · intro other hid hid' htag htext hvalues
    have hgives : t.traits.give? = other.traits.give? := by
      funext c
      apply Option.ext
      intro locator
      rw [give?_eq_some_iff, give?_eq_some_iff]
      constructor
      · intro h
        exact h.of_alike hid htag htext fun name value => (hvalues name value).mp
      · intro h
        exact h.of_alike hid' htag.symm htext.symm fun name value => (hvalues name value).mpr
    rw [Target.locator?, Target.locator?, Traits.locator?_eq_findSome?,
      Traits.locator?_eq_findSome?, hgives]

/-- Markups whose attributes stand in another order, in other letters and more than once. -/
theorem located_by_priority_shuffled :
    let t : Target := { target := some "<INPUT Title=\"b\" name=\"q\">" }
    let other : Target :=
      { targetId := some "", target := some "<input name=\"p\" NAME=\"q\" title=\"b\">" }
    (∃ before c after, candidates = before ++ c :: after ∧
        c.Gives t (.css "input[name=\"q\"]") ∧
        ∀ earlier ∈ before, ∀ locator, ¬ earlier.Gives t locator) ∧
      t.locator? = other.locator? := by
  intro t other
  have hlocator : t.locator? = some (.css "input[name=\"q\"]") := by decide +kernel
  have hread : Fragment.read t.markup = { text := none, tag := "input", inputType := "" } := by
    decide +kernel
  have hread' : Fragment.read other.markup = { text := none, tag := "input", inputType := "" } := by
    decide +kernel
  have hattributes : Fragment.attributes t.markup = [("title", "b"), ("name", "q")] := by
    decide +kernel
  have hshuffled : Fragment.attributes other.markup = [("name", "q"), ("title", "b")] := by
    decide +kernel
  have hlookup (name : String) :
      (Fragment.attributes t.markup).lookup name =
        (Fragment.attributes other.markup).lookup name := by
    rw [hattributes, hshuffled]
    by_cases hname : name = "title"
    · rw [hname]
      rfl
    · simp [List.lookup_cons, beq_false_of_ne hname]
  obtain ⟨hfirst, -, -, halike⟩ := located_by_priority t
  refine ⟨(hfirst _).mp hlocator, ?_⟩
  refine halike other rfl rfl (by rw [hread, hread']) (by rw [hread, hread']) ?_
  intro name value
  rw [← Fragment.lookup_attributes_iff, ← Fragment.lookup_attributes_iff, hlookup]

end Target

end Retrace
