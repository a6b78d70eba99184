import Retrace.Proofs.Fragment.Attributes
import Retrace.Proofs.Fragment.Tags
import Retrace.Proofs.Plan.Waits
import Retrace.Proofs.Text.Quoting

/-!
Quoted values in the selectors of clicks. A value is put between quotes as it is, so it is read back
only if it holds nothing that means something in a quoted string. The value of an attribute never
holds a quote, a visible text may, and either may hold a backslash.
-/

namespace Retrace

open Text

namespace Locator

/-- The selector of an element by the value of an attribute. -/
def attributeSelector (tag : Option String) (name value : String) : String :=
  tagText tag ++ "[" ++ name ++ "=\"" ++ value ++ "\"]"

/-- The selector of an element by its visible text. -/
def textSelector (tag : Option String) (text : String) : String :=
  tagText tag ++ ":text(\"" ++ text ++ "\")"

/-- The attributes that an element can be found by. -/
def attributeNames : List String := stableAttributes ++ tagAttributes.map Prod.snd

theorem quote_notMem_attributeName {name : String} (h : name ∈ attributeNames) :
    '"' ∉ name.toList := by
  have hnames : ∀ name ∈ attributeNames, '"' ∉ name.toList := by decide
  exact hnames name h

theorem delimits_attributeSelector_iff (rule : EscapeRule) {tag : Option String}
    {name value : String} (htag : '"' ∉ (tagText tag).toList) (hname : name ∈ attributeNames) :
    Delimits rule (attributeSelector tag name value).toList value.toList [']'] ↔
      '"' ∉ value.toList ∧ '\\' ∉ value.toList := by
  have hfront : '"' ∉ (tagText tag ++ "[" ++ name ++ "=").toList := by
    simp [htag, quote_notMem_attributeName hname]
  have htext : (attributeSelector tag name value).toList =
      (tagText tag ++ "[" ++ name ++ "=").toList ++ '"' :: (value.toList ++ '"' :: [']']) := by
    simp [attributeSelector]
  rw [htext, delimits_iff rule hfront]

theorem delimits_textSelector_iff (rule : EscapeRule) {tag : Option String} {text : String}
    (htag : '"' ∉ (tagText tag).toList) :
    Delimits rule (textSelector tag text).toList text.toList [')'] ↔
      '"' ∉ text.toList ∧ '\\' ∉ text.toList := by
  have hfront : '"' ∉ (tagText tag ++ ":text(").toList := by
    simp [htag]
  have htext : (textSelector tag text).toList =
      (tagText tag ++ ":text(").toList ++ '"' :: (text.toList ++ '"' :: [')']) := by
    simp [textSelector]
  rw [htext, delimits_iff rule hfront]

/-- Where a locator comes from. -/
inductive Source (t : Traits) : Locator → Prop
  | ofId {id : String} (hid : t.id = some id) : Source t (.css ("#" ++ id))
  | ofAttribute {name value : String} (hname : name ∈ attributeNames)
      (hvalue : t.attribute? name = some value) :
      Source t (.css (attributeSelector t.tag name value))
  | ofText {text : String} (htext : t.text = some text) : Source t (.text text t.tag)

namespace Traits

variable {t : Traits} {locator : Locator}

theorem attributeLocator?_source {name : String} (hname : name ∈ attributeNames)
    (h : t.attributeLocator? name = some locator) : Source t locator := by
  obtain ⟨value, hvalue, rfl⟩ := Option.map_eq_some_iff.mp h
  exact .ofAttribute hname hvalue

theorem locator?_source (h : t.locator? = some locator) : Source t locator := by
  simp only [locator?, Option.or_eq_some_iff] at h
  rcases h with hid | ⟨-, hstable | ⟨-, htag | ⟨-, htext⟩⟩⟩
  · obtain ⟨id, hsome, rfl⟩ := Option.map_eq_some_iff.mp hid
    exact .ofId (Option.filter_eq_some_iff.mp hsome).1
  · obtain ⟨name, hmem, hn⟩ := List.exists_of_findSome?_eq_some hstable
    exact attributeLocator?_source (List.mem_append_left _ hmem) hn
  · obtain ⟨row, hmem, hr⟩ := List.exists_of_findSome?_eq_some htag
    have hrow : row.2 ∈ attributeNames :=
      List.mem_append_right _ (List.mem_map_of_mem (List.mem_filter.mp hmem).1)
    exact attributeLocator?_source hrow hr
  · obtain ⟨text, ht, rfl⟩ := Option.map_eq_some_iff.mp htext
    exact .ofText ht

end Traits

end Locator

namespace Target

open Locator

theorem quote_notMem_tag (t : Target) : '"' ∉ (tagText t.traits.tag).toList := by
  cases h : t.traits.tag with
  | none => decide
  | some tag => exact Fragment.quote_notMem_tag h

theorem quote_notMem_attribute {t : Target} {name value : String}
    (h : t.traits.attribute? name = some value) : '"' ∉ value.toList :=
  Fragment.quote_notMem_attribute (Entries.mem_of_lookup (Option.filter_eq_some_iff.mp h).1)

end Target

/-- What a click does, by what its target is found by. A value in quotes is read back as itself
unless it holds a backslash, or, as only a text may, a quote. -/
inductive Clicked (rule : EscapeRule) (t : Locator.Traits) : List Action → Prop
  | byId {id : String} (hid : t.id = some id) :
      Clicked rule t [.waitFor ("#" ++ id), .clickBySelector ("#" ++ id)]
  | byAttribute {name value selector : String} (hname : name ∈ Locator.attributeNames)
      (hvalue : t.attribute? name = some value)
      (hselector : selector = Locator.attributeSelector t.tag name value)
      (hquote : '"' ∉ value.toList)
      (hread : Delimits rule selector.toList value.toList [']'] ↔ '\\' ∉ value.toList) :
      Clicked rule t [.waitFor selector, .clickBySelector selector]
  | byText {text selector : String} (htext : t.text = some text)
      (hselector : selector = Locator.textSelector t.tag text)
      (hread : Delimits rule selector.toList text.toList [')'] ↔
        '"' ∉ text.toList ∧ '\\' ∉ text.toList) :
      Clicked rule t [.waitFor selector, .clickFirstByText text t.tag]

namespace Event

open Locator

/-- Whatever a backslash means in a selector, the quoted value in the selector of a click is read
back as the value of the attribute exactly if that holds no backslash, and as the visible text
exactly if that holds neither a backslash nor a quote. -/
theorem clicked_of_replay (rule : EscapeRule) {e : Event} {actions : List Action}
    (hkind : e.kind = .click) (h : e.replay = .ok actions) :
    ∃ target, e.target = some target ∧ Clicked rule target.traits actions := by
  rw [replay, hkind] at h
  change e.replayClick = .ok actions at h
  unfold replayClick at h
  cases hl : e.locator? with
  | none =>
      rw [hl] at h
      cases h
  | some locator =>
      obtain ⟨target, htarget, hlocator⟩ := Option.bind_eq_some_iff.mp hl
      have htag := target.quote_notMem_tag
      refine ⟨target, htarget, ?_⟩
      rw [hl] at h
      cases Traits.locator?_source hlocator with
      | ofId hid =>
          cases h
          exact .byId hid
      | @ofAttribute name value hname hvalue =>
          cases h
          have hquote := Target.quote_notMem_attribute hvalue
          refine .byAttribute hname hvalue rfl hquote ?_
          rw [delimits_attributeSelector_iff rule htag hname]
          exact and_iff_right hquote
      | ofText htext =>
          cases h
          exact .byText htext rfl (delimits_textSelector_iff rule htag)

/-- A click on a link whose address holds no backslash. -/
theorem clicked_of_replay_link :
    let target : Target := { target := some "<a href=\"/x\">" }
    let e : Event := { kind := .click, target := some target }
    let actions : List Action :=
      [.waitFor "a[href=\"/x\"]", .clickBySelector "a[href=\"/x\"]"]
    e.kind = .click ∧ e.replay = .ok actions ∧
      ∃ target, e.target = some target ∧ Clicked .css target.traits actions := by
  intro target e actions
  have h : e.replay = .ok actions := by decide +kernel
  exact ⟨rfl, h, clicked_of_replay .css rfl h⟩

/-- A visible text with quotes and an address with a backslash are not read back. -/
theorem click_misquotes :
    let onText : Event := { kind := .click, target := some { target := some "<b>say \"x\"</b>" } }
    let onLink : Event :=
      { kind := .click, target := some { target := some "<a href=\"a\\b\">" } }
    onText.replay = .ok [.waitFor "b:text(\"say \"x\"\")",
        .clickFirstByText "say \"x\"" (some "b")] ∧
      (∀ rule, ¬ Delimits rule "b:text(\"say \"x\"\")".toList "say \"x\"".toList [')']) ∧
      onLink.replay = .ok [.waitFor "a[href=\"a\\b\"]", .clickBySelector "a[href=\"a\\b\"]"] ∧
      ∀ rule, ¬ Delimits rule "a[href=\"a\\b\"]".toList "a\\b".toList [']'] := by
  intro onText onLink
  refine ⟨by decide +kernel, ?_, by decide +kernel, ?_⟩
  · intro rule h
    have hselector : textSelector (some "b") "say \"x\"" = "b:text(\"say \"x\"\")" := by decide
    rw [← hselector, delimits_textSelector_iff rule (by decide)] at h
    exact absurd h (by decide)
  · intro rule h
    have hselector : attributeSelector (some "a") "href" "a\\b" = "a[href=\"a\\b\"]" := by decide
    rw [← hselector, delimits_attributeSelector_iff rule (by decide) (by decide)] at h
    exact absurd h (by decide)

end Event

end Retrace
