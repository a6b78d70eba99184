import Mathlib.Data.List.Forall2
import Retrace.Compilation

/-!
Submissions of forms. What the entry of a control gives, and what is noted about it, is decided by
that entry alone; only how the form is submitted in the end looks at all of them.
-/

namespace Retrace

open Decoding

namespace Control

/-- The selector of a control without the blanks around it, empty where there is none. -/
def trimmedSelector (c : Control) : String :=
  String.ofList (Text.trim (c.selector.getD "").toList)

def lowerTag (c : Control) : String := Fragment.lowerText (c.tag.getD "").toList

def lowerType (c : Control) : String := Fragment.lowerText (c.inputType.getD "").toList

/-- The control has no selector, or a type that is not replayed. -/
def IsPassedOver (c : Control) : Prop :=
  c.trimmedSelector = "" ∨ c.lowerType ∈ ["hidden", "file", "reset"]

end Control

/-- The single action, if any, that drives a control of the given tag and type. -/
inductive Driven (tag inputType selector text : String) : List Action → Prop
  | typed (h : tag = "input" ∧ inputType ∈ ["text", "search", "password", "email", "number", "tel",
        "url", "date", "datetime-local", ""] ∨ tag = "textarea") :
      Driven tag inputType selector text [.inputText selector text]
  | clicked (h : tag = "input" ∧ inputType ∈ ["checkbox", "radio", "submit", "button", "image"] ∨
        tag = "button") :
      Driven tag inputType selector text [.clickBySelector selector]
  | selected (h : tag = "select") :
      Driven tag inputType selector text [.selectOption selector text]
  | untouched (htag : tag ∉ ["textarea", "select", "button"])
      (htype : tag = "input" → inputType ∉ ["text", "search", "password", "email", "number", "tel",
        "url", "date", "datetime-local", "", "checkbox", "radio", "submit", "button", "image"]) :
      Driven tag inputType selector text []

/-- What the entry of a form gives, with the lines that are logged about it. -/
inductive EntryGives (name : String) (v : Json) :
    List Action → List (Note.Level × String) → Prop
  | unreadable (h : ∀ c, ofJson Control.decode v ≠ .ok c) : EntryGives name v [] []
  | absent {c : Control} (hc : ofJson Control.decode v = .ok c) (h : c.value = none) :
      EntryGives name v [] []
  | passedOver {c : Control} {value : Json} (hc : ofJson Control.decode v = .ok c)
      (hvalue : c.value = some value) (h : c.IsPassedOver) :
      EntryGives name v [] [(.debug, "Ignoring form control '" ++ name ++ "'")]
  | driven {c : Control} {value : Json} {drive : List Action}
      (hc : ofJson Control.decode v = .ok c) (hvalue : c.value = some value)
      (h : ¬ c.IsPassedOver)
      (hdrive : Driven c.lowerTag c.lowerType c.trimmedSelector value.plainText drive) :
      EntryGives name v (.waitForElement c.trimmedSelector 5000 :: drive) []

/-- How a form is submitted once its controls are filled in. -/
inductive SubmittedBy (form : Option String) (filled : List Action) : List Action → Prop
  | enter (h : ∃ selector text, .inputText selector text ∈ filled) :
      SubmittedBy form filled [.sendKeys "Enter"]
  | click {selector : String} (h : ∀ selector text, .inputText selector text ∉ filled)
      (hform : form = some selector) (hne : selector ≠ "") :
      SubmittedBy form filled [.waitForElement selector 5000, .clickBySelector selector]
  | nothing (h : ∀ selector text, .inputText selector text ∉ filled)
      (hform : form.getD "" = "") : SubmittedBy form filled []

namespace ControlKind

theorem driven_ofTypes (tag inputType selector : String) (value : Json) :
    ∃ drive, Driven tag inputType selector value.plainText drive ∧
      (ControlStep.driven (ofTypes tag inputType) selector value).actions =
        .waitForElement selector 5000 :: drive := by
  unfold ofTypes
  split
  · next htag =>
      split
      · next htext => exact ⟨_, .typed (.inl ⟨htag, htext⟩), rfl⟩
      · next htext =>
          split
          · next hcheck =>
              refine ⟨_, .clicked (.inl ⟨htag, ?_⟩), rfl⟩
              exact List.mem_append_left buttonTypes hcheck
          · next hcheck =>
              split
              · next hbutton =>
                  refine ⟨_, .clicked (.inl ⟨htag, ?_⟩), rfl⟩
                  exact List.mem_append_right checkableTypes hbutton
              · next hbutton =>
                  refine ⟨_, .untouched ?_ fun _ => ?_, rfl⟩
                  · simp [htag]
                  · intro hmem
                    have hall : inputType ∈ textTypes ++ (checkableTypes ++ buttonTypes) := hmem
                    simp only [List.mem_append, htext, hcheck, hbutton, or_self] at hall
  · next hinput =>
      split
      · next htag => exact ⟨_, .typed (.inr htag), rfl⟩
      · next htextarea =>
          split
          · next htag => exact ⟨_, .selected htag, rfl⟩
          · next hselect =>
              split
              · next htag => exact ⟨_, .clicked (.inr htag), rfl⟩
              · next hbutton =>
                  refine ⟨_, .untouched ?_ fun htag => absurd htag hinput, rfl⟩
                  simp [htextarea, hselect, hbutton]

end ControlKind

/-- What is logged about a note. -/
def Note.line (n : Note) : Note.Level × String := (n.level, n.message)

/-- The lines that are logged about an entry that is a control. -/
def Control.lines (c : Control) (name : String) : List (Note.Level × String) :=
  if c.step.isIgnored then [(Note.ignoredControl name).line] else []

theorem Control.entryGives {c : Control} {v : Json} (hc : ofJson Control.decode v = .ok c)
    (name : String) : EntryGives name v c.step.actions (c.lines name) := by
  cases hvalue : c.value with
  | none =>
      have hstep : c.step = .absent := by simp only [step, hvalue]
      rw [lines, hstep]
      exact .absent hc hvalue
  | some value =>
      by_cases h : c.IsPassedOver
      · have hstep : c.step = .ignored := by
          simp only [step, hvalue]
          exact if_pos h
        rw [lines, hstep]
        exact .passedOver hc hvalue h
      · have hstep : c.step =
            .driven (ControlKind.ofTypes c.lowerTag c.lowerType) c.trimmedSelector value := by
          simp only [step, hvalue]
          exact if_neg h
        obtain ⟨drive, hdrive, hactions⟩ :=
          ControlKind.driven_ofTypes c.lowerTag c.lowerType c.trimmedSelector value
        rw [lines, hstep, hactions]
        exact .driven hc hvalue h hdrive

namespace ControlStep

/-- A step types into its control exactly if it gives an action that does. -/
theorem isTyped_iff {step : ControlStep} :
    step.isTyped ↔ ∃ selector text, .inputText selector text ∈ step.actions := by
  cases step with
  | absent | ignored => simp [isTyped, actions]
  | driven kind selector value => cases kind <;> simp [isTyped, actions, Action.waitFor]

theorem any_isTyped_iff {steps : List ControlStep} : steps.any isTyped ↔
    ∃ selector text, .inputText selector text ∈ steps.flatMap actions := by
  rw [List.any_eq_true]
  constructor
  · rintro ⟨step, hstep, htyped⟩
    obtain ⟨selector, text, hmem⟩ := isTyped_iff.mp htyped
    exact ⟨selector, text, List.mem_flatMap.mpr ⟨step, hstep, hmem⟩⟩
  · rintro ⟨selector, text, hmem⟩
    obtain ⟨step, hstep, hmem⟩ := List.mem_flatMap.mp hmem
    exact ⟨step, hstep, isTyped_iff.mpr ⟨selector, text, hmem⟩⟩

end ControlStep

/-- What an entry of a form gives, and the lines that are logged about it. -/
def entryPart (m : String × Json) : List Action × List (Note.Level × String) :=
  match ofJson Control.decode m.2 with
  | .ok c => (c.step.actions, c.lines m.1)
  | .error _ => ([], [])

theorem entryGives_entryPart (m : String × Json) :
    EntryGives m.1 m.2 (entryPart m).1 (entryPart m).2 := by
  unfold entryPart
  cases hc : ofJson Control.decode m.2 with
  | ok c => exact c.entryGives hc m.1
  | error fault =>
      refine .unreadable fun c hok => ?_
      rw [hc] at hok
      cases hok

namespace Event

variable {e : Event} {members : Json.Members}

/-- What is gathered from the controls of a form comes from its entries, those that are no controls
giving nothing. -/
theorem flatMap_controls {β : Type} (h : e.payload = some (.controls members))
    {ofControl : String × Control → List β} {ofEntry : String × Json → List β}
    (hcontrol : ∀ m c, Decoding.ofJson Control.decode m.2 = .ok c → ofEntry m = ofControl (m.1, c))
    (hother : ∀ m fault, Decoding.ofJson Control.decode m.2 = .error fault → ofEntry m = []) :
    (e.controls.getD []).flatMap ofControl = members.flatMap ofEntry := by
  simp only [controls, h, Option.getD_some]
  clear h
  induction members with
  | nil => rfl
  | cons m rest ih =>
      rw [List.flatMap_cons, ← ih]
      cases hc : Decoding.ofJson Control.decode m.2 with
      | ok c => simp [hc, Except.toOption, hcontrol m c hc]
      | error fault => simp [hc, Except.toOption, hother m fault hc]

theorem actions_controls (h : e.payload = some (.controls members)) :
    ((e.controls.getD []).map fun m => m.2.step).flatMap ControlStep.actions =
      members.flatMap fun m => (entryPart m).1 := by
  rw [List.flatMap_map]
  refine flatMap_controls h ?_ ?_
  · intro m c hc
    simp only [entryPart, hc]
  · intro m fault hfault
    simp only [entryPart, hfault]

theorem lines_ignoredControls (hkind : e.kind = .submit)
    (h : e.payload = some (.controls members)) :
    (e.ignoredControls.map Note.ignoredControl).map Note.line =
      members.flatMap fun m => (entryPart m).2 := by
  have hlines : (e.ignoredControls.map Note.ignoredControl).map Note.line =
      (e.controls.getD []).flatMap fun m => m.2.lines m.1 := by
    rw [ignoredControls, if_pos hkind, List.map_map, List.map_filterMap,
      List.filterMap_eq_flatMap_toList]
    refine List.flatMap_congr fun m _ => ?_
    obtain ⟨name, c⟩ := m
    cases hignored : c.step.isIgnored with
    | true => simp [Control.lines, hignored]
    | false => simp [Control.lines, hignored]
  rw [hlines]
  refine flatMap_controls h ?_ ?_
  · intro m c hc
    simp only [entryPart, hc]
  · intro m fault hfault
    simp only [entryPart, hfault]

theorem submittedBy_submission (e : Event) (steps : List ControlStep) :
    SubmittedBy (e.target.bind Target.selector) (steps.flatMap ControlStep.actions)
      (e.submission (steps.any ControlStep.isTyped)) := by
  have htyped : steps.any ControlStep.isTyped ↔
      ∃ selector text, .inputText selector text ∈ steps.flatMap ControlStep.actions :=
    ControlStep.any_isTyped_iff
  unfold submission
  split
  · next h => exact .enter (htyped.mp h)
  · next h =>
      have hnone : ∀ selector text,
          .inputText selector text ∉ steps.flatMap ControlStep.actions :=
        fun selector text hmem => h (htyped.mpr ⟨selector, text, hmem⟩)
      split
      · next selector hform =>
          obtain ⟨hform, hne⟩ := Option.filter_eq_some_iff.mp hform
          exact .click hnone hform (of_decide_eq_true hne)
      · next hform =>
          refine .nothing hnone ?_
          cases hselector : e.target.bind Target.selector with
          | none => rfl
          | some selector =>
              rw [hselector] at hform
              simpa using hform

theorem exists_controls {m : String × Json} {c : Control}
    (h : e.payload = some (.controls members)) (hm : m ∈ members)
    (hc : Decoding.ofJson Control.decode m.2 = .ok c) :
    ∃ first rest, e.controls = some (first :: rest) := by
  cases hcontrols : e.controls with
  | none => simp [controls, h] at hcontrols
  | some found =>
      have hmem : (m.1, c) ∈ found := by
        simp only [controls, h, Option.some.injEq] at hcontrols
        rw [← hcontrols]
        exact List.mem_filterMap.mpr ⟨m, hm, by simp [hc, Except.toOption]⟩
      cases found with
      | nil => cases hmem
      | cons first rest => exact ⟨first, rest, rfl⟩

/-- A form with an entry that is a control is submitted entry by entry, each giving what it gives by
itself, and in the end by the enter key exactly if something was typed. -/
theorem submitted_by_entries {e : Event} {members : Json.Members} (hkind : e.kind = .submit)
    (hpayload : e.payload = some (.controls members))
    (hcontrol : ∃ m ∈ members, ∃ c, Decoding.ofJson Control.decode m.2 = .ok c) :
    ∃ (parts : List (List Action × List (Note.Level × String))) (last : List Action),
      List.Forall₂ (fun m part => EntryGives m.1 m.2 part.1 part.2) members parts ∧
        SubmittedBy (e.target.bind Target.selector) (parts.flatMap Prod.fst) last ∧
        e.replay = .ok (parts.flatMap Prod.fst ++ last) ∧
        ∀ index, (Compilation.ofEvent index e).plan = parts.flatMap Prod.fst ++ last ∧
          (Compilation.ofEvent index e).notes.map Note.line = parts.flatMap Prod.snd := by
  obtain ⟨m, hm, c, hc⟩ := hcontrol
  obtain ⟨first, rest, hcontrols⟩ := exists_controls hpayload hm hc
  let steps := (first :: rest).map fun m => m.2.step
  have hactions : steps.flatMap ControlStep.actions = (members.map entryPart).flatMap Prod.fst := by
    have hentries := actions_controls hpayload
    rw [hcontrols, Option.getD_some] at hentries
    rw [hentries, List.flatMap_map]
  have hlines := lines_ignoredControls hkind hpayload
  have hreplay : e.replay = .ok ((members.map entryPart).flatMap Prod.fst ++
      e.submission (steps.any ControlStep.isTyped)) := by
    rw [← hactions, replay, hkind]
    simp only [replaySubmit, hcontrols]
    rfl
  have hlast := e.submittedBy_submission steps
  rw [hactions] at hlast
  refine ⟨members.map entryPart, _, ?_, hlast, hreplay, fun index => ⟨?_, ?_⟩⟩
  · exact List.forall₂_map_right_iff.mpr (List.forall₂_same.mpr fun m _ => entryGives_entryPart m)
  · simp only [Compilation.ofEvent, hreplay]
  · simp only [Compilation.ofEvent, hreplay]
    rw [hlines, List.flatMap_map]

/-- A field that is typed into, one that is hidden, an entry that is no control and a button. -/
theorem submitted_by_entries_mixed :
    let members : Json.Members := [
      ("q", .object [("selector", .string " #q "), ("tag", .string "INPUT"),
        ("value", .number (.integer 7))]),
      ("token", .object [("selector", .string "#t"), ("type", .string "Hidden"),
        ("value", .string "x")]),
      ("junk", .number (.integer 1)),
      ("go", .object [("selector", .string "#go"), ("tag", .string "button"),
        ("value", .string "")])]
    let e : Event := { kind := .submit, payload := some (.controls members) }
    let plan : List Action := [.waitForElement "#q" 5000, .inputText "#q" "7",
      .waitForElement "#go" 5000, .clickBySelector "#go", .sendKeys "Enter"]
    e.replay = .ok plan ∧ ∃ (parts : List (List Action × List (Note.Level × String)))
      (last : List Action),
      List.Forall₂ (fun m part => EntryGives m.1 m.2 part.1 part.2) members parts ∧
        SubmittedBy none (parts.flatMap Prod.fst) last ∧
        plan = parts.flatMap Prod.fst ++ last ∧
        parts.flatMap Prod.snd = [(.debug, "Ignoring form control 'token'")] := by
  intro members e plan
  have hplan : e.replay = .ok plan := by decide +kernel
  have hnotes : (Compilation.ofEvent 0 e).notes.map Note.line =
      [(.debug, "Ignoring form control 'token'")] := by decide +kernel
  obtain ⟨parts, last, hparts, hlast, hreplay, hcompiled⟩ :=
    submitted_by_entries (e := e) rfl rfl ⟨_, List.mem_cons_self, _, rfl⟩
  rw [hplan] at hreplay
  rw [(hcompiled 0).2] at hnotes
  exact ⟨hplan, parts, last, hparts, hlast, Except.ok.inj hreplay, hnotes⟩

end Event

end Retrace
