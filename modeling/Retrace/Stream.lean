import Retrace.Bundle
import Retrace.Compilation

/-!
Streams of events that record a task. A stream is accepted for a bundle when it starts with its only
task-start event and that event names the task and describes it.
-/

namespace Retrace

/-- Why a stream is not accepted. -/
inductive StreamError where
  | emptyStream
  | missingTaskStart
  | multipleTaskStarts (labels : List String)
  | taskStartNotFirst (label : String) (found : String)
  | missingTaskMetadata (label : String)
deriving DecidableEq, Repr

def StreamError.message : StreamError → String
  | .emptyStream => "no events to compile"
  | .missingTaskStart => "no task-start event found"
  | .multipleTaskStarts labels =>
      "multiple task-start events detected: " ++ ", ".intercalate labels
  | .taskStartNotFirst label found =>
      "first event is not a task-start record (" ++ label ++ " is '" ++ found ++ "')"
  | .missingTaskMetadata label =>
      "task-start " ++ label ++ " has no taskDescription or taskId"

/-- The identity of a recorded task. -/
structure TaskHeader where
  taskId : String
  description : String
deriving DecidableEq, Repr

/-- An event with the name it has in messages. -/
structure Labelled where
  label : String
  event : Event

namespace Labelled

def isTaskStart (l : Labelled) : Bool := l.event.kind = .taskStart

/-- Labels the events of a stream by their place in it. -/
def byIndexFrom (label : Nat → String) (index : Nat) : List Event → List Labelled
  | [] => []
  | e :: rest => ⟨label index, e⟩ :: byIndexFrom label (index + 1) rest

def byIndex (label : Nat → String) (events : List Event) : List Labelled :=
  byIndexFrom label 0 events

def eventLabel (index : Nat) : String := "event #" ++ toString index

def header (stream : List Labelled) : Except StreamError TaskHeader :=
  match stream with
  | [] => .error .emptyStream
  | first :: _ =>
      match stream.filter isTaskStart with
      | [] => .error .missingTaskStart
      | _ :: _ :: _ => .error (.multipleTaskStarts ((stream.filter isTaskStart).map label))
      | [_] =>
          if first.isTaskStart then
            match first.event.taskId.filter (· ≠ ""), first.event.description.filter (· ≠ "") with
            | some taskId, some description => .ok ⟨taskId, description⟩
            | _, _ => .error (.missingTaskMetadata first.label)
          else .error (.taskStartNotFirst first.label first.event.kind.name)

/-- The bundle of an accepted stream. -/
def bundle (stream : List Labelled) : Except StreamError Bundle := do
  let h ← header stream
  return { goal := h.description, taskId := h.taskId,
           plan := (Compilation.ofEvents (stream.map Labelled.event)).plan }

end Labelled

/-- The identity of the task that a stream records. -/
def TaskHeader.ofEvents (events : List Event) : Except StreamError TaskHeader :=
  Labelled.header (Labelled.byIndex Labelled.eventLabel events)

def Bundle.ofEvents (events : List Event) : Except StreamError Bundle :=
  Labelled.bundle (Labelled.byIndex Labelled.eventLabel events)

end Retrace
