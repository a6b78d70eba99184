import Retrace.Action
import Retrace.Event.Decoding
import Retrace.Locator

/-!
How single events are replayed. A rule looks at no other event, so that a plan is the concatenation
of what its events give. No rule touches an element without waiting for it first.
-/

namespace Retrace

/-- Why an event gives no actions. -/
inductive SkipReason where
  | unresolvableSelector
  | textLocatorUnsupported
  | unknownEventType (name : String)
  | missingStartUrl
  | missingNavigationUrl
  | emptySubmission
deriving DecidableEq, Repr

def SkipReason.message : SkipReason → String
  | .unresolvableSelector => "no selector could be derived for the event target"
  | .textLocatorUnsupported => "field edits need a CSS selector, only visible text was found"
  | .unknownEventType name => "unknown event type '" ++ name ++ "'"
  | .missingStartUrl => "task-start event has no navigation history"
  | .missingNavigationUrl => "navigation event has no destination url"
  | .emptySubmission => "submit event has no allEvents payload"

/-- How a form control is driven. -/
inductive ControlKind where
  | text
  | checkable
  | select
  | button
  | other
deriving DecidableEq, Repr

namespace ControlKind

/-- The input types that are typed into; the empty one stands for no type at all. -/
def textTypes : List String :=
  ["text", "search", "password", "email", "number", "tel", "url", "date", "datetime-local", ""]

def checkableTypes : List String := ["checkbox", "radio"]

def buttonTypes : List String := ["submit", "button", "image"]

/-- The input types that are not replayed. -/
def ignoredTypes : List String := ["hidden", "file", "reset"]

def ofTypes (tag inputType : String) : ControlKind :=
  if tag = "input" then
    if inputType ∈ textTypes then .text
    else if inputType ∈ checkableTypes then .checkable
    else if inputType ∈ buttonTypes then .button
    else .other
  else if tag = "textarea" then .text
  else if tag = "select" then .select
  else if tag = "button" then .button
  else .other

end ControlKind

/-- What the submission of a form does with one of its controls. -/
inductive ControlStep where
  /-- The control contributed nothing. -/
  | absent
  /-- The control has no selector or a type that is not replayed. -/
  | ignored
  | driven (kind : ControlKind) (selector : String) (value : Json)

namespace Control

def step (c : Control) : ControlStep :=
  match c.value with
  | none => .absent
  | some value =>
      let selector := String.ofList (Text.trim (c.selector.getD "").toList)
      let tag := Fragment.lowerText (c.tag.getD "").toList
      let inputType := Fragment.lowerText (c.inputType.getD "").toList
      if selector = "" ∨ inputType ∈ ControlKind.ignoredTypes then .ignored
      else .driven (ControlKind.ofTypes tag inputType) selector value

end Control

namespace ControlStep

def actions : ControlStep → List Action
  | .driven .text selector value => [.waitFor selector, .inputText selector value.plainText]
  | .driven .checkable selector _ => [.waitFor selector, .clickBySelector selector]
  | .driven .button selector _ => [.waitFor selector, .clickBySelector selector]
  | .driven .select selector value => [.waitFor selector, .selectOption selector value.plainText]
  | .driven .other selector _ => [.waitFor selector]
  | _ => []

def isTyped : ControlStep → Bool
  | .driven .text _ _ => true
  | _ => false

def isIgnored : ControlStep → Bool
  | .ignored => true
  | _ => false

end ControlStep

abbrev Replay := Except SkipReason (List Action)

namespace Event

def locator? (e : Event) : Option Locator := e.target.bind Target.locator?

def replayTaskStart (e : Event) : Replay :=
  match e.firstNavigation.bind NavigationEntry.currentUrl with
  | some url => .ok [.openTab url]
  | none => .error .missingStartUrl

def replayClick (e : Event) : Replay :=
  match e.locator? with
  | some (.css selector) => .ok [.waitFor selector, .clickBySelector selector]
  | some (.text text tag) =>
      .ok [.waitFor (Locator.tagText tag ++ ":text(\"" ++ text ++ "\")"),
        .clickFirstByText text tag]
  | none => .error .unresolvableSelector

def replayNavigation (e : Event) : Replay :=
  match e.target.bind Target.target with
  | some url => .ok [.goToUrl url, .waitForElement "body" Action.navigationTimeout]
  | none => .error .missingNavigationUrl

/-- What submits the form: the enter key in the last field that was typed into, else a click on the
form's own locator. -/
def submission (e : Event) (typed : Bool) : List Action :=
  if typed then [.sendKeys "Enter"]
  else
    match (e.target.bind Target.selector).filter (· ≠ "") with
    | some selector => [.waitFor selector, .clickBySelector selector]
    | none => []

def replaySubmit (e : Event) : Replay :=
  match e.controls with
  | none | some [] => .error .emptySubmission
  | some controls =>
      let steps := controls.map fun (_, c) => c.step
      .ok (steps.flatMap ControlStep.actions ++ e.submission (steps.any ControlStep.isTyped))

/-- The actions of an edit, once its control is located. Buttons are not pressed by an edit. -/
def editActions (selector : String) (kind : ControlKind) (value : Json) : List Action :=
  match kind with
  | .text => [.waitFor selector, .inputText selector value.plainText]
  | .checkable => [.waitFor selector, .clickBySelector selector]
  | .select => [.waitFor selector, .selectOption selector value.plainText]
  | .button | .other => [.waitFor selector]

def replayInputChange (e : Event) : Replay :=
  match e.target, e.target.bind Target.value with
  | some target, some value =>
      match target.locator? with
      | none => .error .unresolvableSelector
      | some (.text _ _) => .error .textLocatorUnsupported
      | some (.css selector) =>
          let fragment := Fragment.read target.markup
          let tag := fragment.tag.getD ""
          let inputType := fragment.inputType.getD ""
          if tag = "input" ∧ inputType ∈ ControlKind.ignoredTypes then .ok []
          else .ok (editActions selector (ControlKind.ofTypes tag inputType) value)
  | _, _ => .ok []

def replayTaskFinish (e : Event) : Replay :=
  .ok [.extract (e.description.getD ""), .finished]

def replay (e : Event) : Replay :=
  match e.kind with
  | .taskStart => e.replayTaskStart
  | .click => e.replayClick
  | .goBackOrForward => e.replayNavigation
  | .submit => e.replaySubmit
  | .inputChange => e.replayInputChange
  | .taskFinish => e.replayTaskFinish
  | .unknown name => .error (.unknownEventType name)

/-- The names of the controls that the submission of a form passes over. -/
def ignoredControls (e : Event) : List String :=
  if e.kind = .submit then
    (e.controls.getD []).filterMap fun (name, c) => if c.step.isIgnored then some name else none
  else []

end Event

end Retrace
