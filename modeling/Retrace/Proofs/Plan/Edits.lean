import Retrace.Proofs.Plan.Quotations

/-!
Edits and submissions drive a control alike. An edit reads the tag and the type of its control from
markup, a form has them recorded beside the selector; both are lower-cased and the selector is
trimmed once more there, which changes none of them.
-/

namespace Retrace

open Event Text

namespace Target

variable {t : Target} {css : String}

theorem isVisible_tag (t : Target) : ∀ c ∈ (Locator.tagText t.traits.tag).toList, isVisible c := by
  intro c hc
  cases htag : t.traits.tag with
  | none =>
      rw [htag] at hc
      rw [List.mem_singleton.mp hc]
      decide
  | some tag =>
      rw [htag] at hc
      rw [isVisible, Fragment.not_isBlank_tag htag c hc]
      rfl

/-- A selector has no blanks around it, unless it ends in an id that has. -/
theorem isTrimmed_css (h : t.locator? = some (.css css))
    (hid : ∀ id, t.targetId = some id → trimEnd id.toList = id.toList) : IsTrimmed css.toList := by
  cases Locator.Traits.locator?_source h with
  | @ofId id hsome =>
      have hlast := last_trimEnd id.toList
      rw [hid id hsome] at hlast
      rw [String.toList_append]
      exact isTrimmed_cons (by decide) hlast
  | @ofAttribute name value _ _ =>
      have hlist : (Locator.attributeSelector t.traits.tag name value).toList =
          (Locator.tagText t.traits.tag).toList ++
            '[' :: (name.toList ++ '=' :: '"' :: (value.toList ++ ['"'])) ++ [']'] := by
        simp [Locator.attributeSelector]
      have hlast : ∀ front : List Char, ∀ d ∈ (front ++ [']']).getLast?, isVisible d := by
        intro front d hd
        rw [List.getLast?_concat] at hd
        cases hd
        decide
      rw [hlist]
      cases htag : (Locator.tagText t.traits.tag).toList with
      | nil => exact isTrimmed_cons (by decide) (hlast _)
      | cons c rest =>
          have hc : c ∈ (Locator.tagText t.traits.tag).toList := by
            rw [htag]
            exact List.mem_cons_self
          exact isTrimmed_cons (t.isVisible_tag c hc) (hlast _)

/-- The tag of the target as its markup shows it, empty where it shows none. -/
def shownTag (t : Target) : String := (Fragment.read t.markup).tag.getD ""

def shownType (t : Target) : String := (Fragment.read t.markup).inputType.getD ""

/-- The target as a control that a form records under the given selector. -/
def asControl (t : Target) (css : String) : Control where
  selector := some css
  tag := some t.shownTag
  inputType := some t.shownType
  value := t.value

theorem shownType_eq_empty (h : t.shownTag ≠ "input") : t.shownType = "" := by
  have htag : (Fragment.read t.markup).tag ≠ some "input" := by
    intro hsome
    rw [shownTag, hsome] at h
    exact h rfl
  rw [shownType, Fragment.inputType_eq_none htag]
  rfl

theorem step_asControl {value : Json} (hvalue : t.value = some value)
    (hne : css ≠ "") (htrimmed : IsTrimmed css.toList) :
    (t.asControl css).step =
      if t.shownType ∈ ControlKind.ignoredTypes then .ignored
      else .driven (ControlKind.ofTypes t.shownTag t.shownType) css value := by
  have hselector : String.ofList (trim css.toList) = css := by
    rw [htrimmed.trim_eq, String.ofList_toList]
  have htag : Fragment.lowerText t.shownTag.toList = t.shownTag :=
    Fragment.lowerText_getD_tag t.markup
  have htype : Fragment.lowerText t.shownType.toList = t.shownType :=
    Fragment.lowerText_getD_inputType t.markup
  simp only [Control.step, asControl, hvalue, Option.getD_some, hselector, htag, htype, hne,
    false_or]

end Target

/-- What an edit of a control gives, and what is added to it when a form is submitted with that
control alone: a press of the control, if it is a button, or of the enter key, if it was typed
into. -/
inductive EditedThenSubmitted (tag inputType css : String) :
    Option Json → List Action → List Action → Prop
  | absent : EditedThenSubmitted tag inputType css none [] []
  | ignored {value : Json} (htag : tag = "input") (h : inputType ∈ ["hidden", "file", "reset"]) :
      EditedThenSubmitted tag inputType css (some value) [] []
  | typed {value : Json} (h : ControlKind.ofTypes tag inputType = .text) :
      EditedThenSubmitted tag inputType css (some value)
        [.waitForElement css 5000, .inputText css value.plainText] [.sendKeys "Enter"]
  | checked {value : Json} (h : ControlKind.ofTypes tag inputType = .checkable) :
      EditedThenSubmitted tag inputType css (some value)
        [.waitForElement css 5000, .clickBySelector css] []
  | selected {value : Json} (h : ControlKind.ofTypes tag inputType = .select) :
      EditedThenSubmitted tag inputType css (some value)
        [.waitForElement css 5000, .selectOption css value.plainText] []
  | pressed {value : Json} (h : ControlKind.ofTypes tag inputType = .button) :
      EditedThenSubmitted tag inputType css (some value) [.waitForElement css 5000]
        [.clickBySelector css]
  | untouched {value : Json} (h : ControlKind.ofTypes tag inputType = .other)
      (htype : tag = "input" → inputType ∉ ["hidden", "file", "reset"]) :
      EditedThenSubmitted tag inputType css (some value) [.waitForElement css 5000] []

/-- A control that is driven: both begin alike, whatever its kind. -/
theorem EditedThenSubmitted.exists_added {tag inputType css : String} (value : Json)
    (h : inputType ∉ ControlKind.ignoredTypes) :
    let kind := ControlKind.ofTypes tag inputType
    let step := ControlStep.driven kind css value
    ∃ added, (step.actions ++ if step.isTyped then [.sendKeys "Enter"] else []) =
        editActions css kind value ++ added ∧
      EditedThenSubmitted tag inputType css (some value) (editActions css kind value) added := by
  dsimp only
  cases hkind : ControlKind.ofTypes tag inputType with
  | text => exact ⟨[.sendKeys "Enter"], rfl, .typed hkind⟩
  | checkable => exact ⟨[], rfl, .checked hkind⟩
  | select => exact ⟨[], rfl, .selected hkind⟩
  | button => exact ⟨[.clickBySelector css], rfl, .pressed hkind⟩
  | other => exact ⟨[], rfl, .untouched hkind fun _ => h⟩

namespace Event

theorem replay_of_single_control {form : Event} {name : String} {c : Control}
    (hkind : form.kind = .submit) (hcontrols : form.controls = some [(name, c)])
    (hselector : (form.target.bind Target.selector).getD "" = "") :
    form.replay =
      .ok (c.step.actions ++ if c.step.isTyped then [.sendKeys "Enter"] else []) := by
  have hform : (form.target.bind Target.selector).filter (· ≠ "") = none := by
    cases hbind : form.target.bind Target.selector with
    | none => rfl
    | some selector =>
        rw [hbind, Option.getD_some] at hselector
        rw [hselector]
        rfl
  rw [replay, hkind]
  simp only [replaySubmit, hcontrols, submission, hform, List.map_cons, List.map_nil,
    List.flatMap_cons, List.flatMap_nil, List.append_nil, List.any_cons, List.any_nil,
    Bool.or_false]

variable {e : Event} {target : Target} {css : String} {value : Json}

theorem replay_of_no_value (hkind : e.kind = .inputChange) (htarget : e.target = some target)
    (hvalue : target.value = none) : e.replay = .ok [] := by
  rw [replay, hkind]
  simp only [replayInputChange, htarget, Option.bind_some, hvalue]

theorem replay_of_value (hkind : e.kind = .inputChange) (htarget : e.target = some target)
    (hlocator : target.locator? = some (.css css)) (hvalue : target.value = some value) :
    e.replay =
      if target.shownTag = "input" ∧ target.shownType ∈ ControlKind.ignoredTypes then .ok []
      else .ok (editActions css (ControlKind.ofTypes target.shownTag target.shownType) value) := by
  rw [replay, hkind]
  simp only [replayInputChange, htarget, Option.bind_some, hvalue, hlocator]
  rfl

/-- An edit whose control has a selector of its own gives what a form with that control alone gives
when it is submitted, but for the press of a button and for the enter key after a text. -/
theorem submitted_as_edited {e form : Event} {target : Target} {css name : String}
    (hkind : e.kind = .inputChange) (htarget : e.target = some target)
    (hlocator : target.locator? = some (.css css))
    (hid : ∀ id, target.targetId = some id → trimEnd id.toList = id.toList)
    (hform : form.kind = .submit) (hcontrols : form.controls = some [(name, target.asControl css)])
    (hselector : (form.target.bind Target.selector).getD "" = "") :
    ∃ edit added, e.replay = .ok edit ∧ form.replay = .ok (edit ++ added) ∧
      EditedThenSubmitted target.shownTag target.shownType css target.value edit added := by
  have hsubmit := replay_of_single_control hform hcontrols hselector
  cases hvalue : target.value with
  | none =>
      have hstep : (target.asControl css).step = .absent := by
        simp only [Control.step, Target.asControl, hvalue]
      rw [hstep] at hsubmit
      exact ⟨[], [], replay_of_no_value hkind htarget hvalue, hsubmit, .absent⟩
  | some value =>
      have hedit := replay_of_value hkind htarget hlocator hvalue
      have hne := Locator.Traits.locator?_css_ne hlocator
      rw [Target.step_asControl hvalue hne (Target.isTrimmed_css hlocator hid)] at hsubmit
      by_cases hignored : target.shownType ∈ ControlKind.ignoredTypes
      · have htag : target.shownTag = "input" := by
          by_contra htag
          rw [Target.shownType_eq_empty htag] at hignored
          exact absurd hignored (by decide)
        rw [if_pos ⟨htag, hignored⟩] at hedit
        rw [if_pos hignored] at hsubmit
        exact ⟨[], [], hedit, hsubmit, .ignored htag hignored⟩
      · rw [if_neg fun h => hignored h.2] at hedit
        rw [if_neg hignored] at hsubmit
        obtain ⟨added, hadded, hedited⟩ :=
          EditedThenSubmitted.exists_added value hignored
        rw [hadded] at hsubmit
        exact ⟨_, added, hedit, hsubmit, hedited⟩

/-- A box that is ticked, found by an attribute: the tag and the type are in capitals, and the box
is all that its form records. -/
theorem submitted_as_edited_box :
    let target : Target :=
      { target := some "<INPUT TYPE=\"Checkbox\" name=\"a b\">", value := some (.bool true) }
    let e : Event := { kind := .inputChange, target := some target }
    let form : Event := { kind := .submit, payload := some (.controls [("box", .object [
      ("selector", .string "input[name=\"a b\"]"), ("tag", .string "input"),
      ("type", .string "checkbox"), ("value", .bool true)])]) }
    ∃ edit added, e.replay = .ok edit ∧ form.replay = .ok (edit ++ added) ∧
      EditedThenSubmitted "input" "checkbox" "input[name=\"a b\"]" (some (.bool true)) edit
        added := by
  intro target e form
  have htag : target.shownTag = "input" := by decide +kernel
  have htype : target.shownType = "checkbox" := by decide +kernel
  have hcontrols : form.controls = some [("box", target.asControl "input[name=\"a b\"]")] := by
    rw [Target.asControl, htag, htype]
    rfl
  have hlocator : target.locator? = some (.css "input[name=\"a b\"]") := by decide +kernel
  have hkind : e.kind = .inputChange := rfl
  have hform : form.kind = .submit := rfl
  have h := submitted_as_edited hkind rfl hlocator nofun hform hcontrols rfl
  rwa [htag, htype] at h

end Event

end Retrace
