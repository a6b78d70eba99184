import Retrace.Json.Writer

/-!
Recorded interactions. An event keeps every member it was recorded with: the five that the library
reads have fields of their own, the others stay as they were in `extra`.
-/

namespace Retrace

inductive EventKind where
  | taskStart
  | click
  | goBackOrForward
  | submit
  | inputChange
  | taskFinish
  /-- A kind that is not replayed, by the name it was recorded under. -/
  | unknown (name : String)
deriving DecidableEq, Repr

namespace EventKind

def name : EventKind → String
  | .taskStart => "task-start"
  | .click => "click"
  | .goBackOrForward => "go-back-or-forward"
  | .submit => "submit"
  | .inputChange => "input-change"
  | .taskFinish => "task-finish"
  | .unknown name => name

def ofName (name : String) : EventKind :=
  match name with
  | "task-start" => .taskStart
  | "click" => .click
  | "go-back-or-forward" => .goBackOrForward
  | "submit" => .submit
  | "input-change" => .inputChange
  | "task-finish" => .taskFinish
  | other => .unknown other

/-- A type that is no string is unknown, under its JSON text. -/
def ofJson : Json → EventKind
  | .string name => ofName name
  | v => .unknown v.compact

@[simp] theorem name_ofName (name : String) : (ofName name).name = name := by
  unfold ofName
  split <;> rfl

end EventKind

/-- The element that an event acted upon. -/
structure Target where
  targetId : Option String := none
  /-- The markup of the element, or the address that a navigation led to. -/
  target : Option String := none
  value : Option Json := none
  /-- The locator of the form that was submitted. -/
  selector : Option String := none

/-- What one control contributed to a form. -/
structure Control where
  selector : Option String := none
  tag : Option String := none
  inputType : Option String := none
  /-- Absent when the control contributed nothing. -/
  value : Option Json := none

structure NavigationEntry where
  currentUrl : Option String := none
deriving DecidableEq, Repr

/-- What an event carries besides its target. -/
inductive Payload where
  /-- Form controls by name. -/
  | controls (members : Json.Members)
  | history (items : List Json)
  | other (value : Json)

namespace Payload

def ofJson : Json → Payload
  | .object members => .controls members
  | .array items => .history items
  | v => .other v

def toJson : Payload → Json
  | .controls members => .object members
  | .history items => .array items
  | .other v => v

@[simp] theorem toJson_ofJson (v : Json) : (ofJson v).toJson = v := by
  cases v <;> rfl

end Payload

structure Event where
  kind : EventKind := .unknown ""
  target : Option Target := none
  payload : Option Payload := none
  taskId : Option String := none
  description : Option String := none
  extra : Json.Members := []

namespace Json

def ofOption {α : Type} (write : α → Json) : Option α → Json
  | none => .null
  | some a => write a

def ofText? : Option String → Json := ofOption .string

end Json

/-- Absent fields are left out. -/
def Target.toJson (t : Target) : Json :=
  .object ([("targetId", t.targetId.map .string), ("target", t.target.map .string),
    ("value", t.value), ("selector", t.selector.map .string)].filterMap fun (name, value) =>
      value.map fun v => (name, v))

def Control.toJson (c : Control) : Json :=
  .object [("selector", Json.ofText? c.selector), ("tag", Json.ofText? c.tag),
    ("type", Json.ofText? c.inputType), ("value", Json.ofOption id c.value)]

/-- The five known members first, then the others. -/
def Event.toJson (e : Event) : Json :=
  .object ([("type", .string e.kind.name), ("eventTarget", Json.ofOption Target.toJson e.target),
    ("allEvents", Json.ofOption Payload.toJson e.payload), ("taskId", Json.ofText? e.taskId),
    ("taskDescription", Json.ofText? e.description)] ++ e.extra)

end Retrace
