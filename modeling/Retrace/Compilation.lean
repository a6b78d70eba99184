import Retrace.Replay

/-!
Compilation of event streams: the plan, the events that gave no actions, and the notes taken on the
way. All three of a stream are those of its parts, one after the other.
-/

namespace Retrace

structure SkippedEvent where
  index : Nat
  eventType : String
  reason : SkipReason
deriving DecidableEq, Repr

/-- What is worth reporting about a compilation. -/
inductive Note where
  | ignoredControl (name : String)
  | skipped (event : SkippedEvent)
deriving DecidableEq, Repr

namespace Note

inductive Level where
  | debug
  | warning
deriving DecidableEq, Repr

def level : Note → Level
  | .ignoredControl _ => .debug
  | .skipped _ => .warning

def message : Note → String
  | .ignoredControl name => "Ignoring form control '" ++ name ++ "'"
  | .skipped event =>
      "Skipping event #" ++ toString event.index ++ " (" ++ event.eventType ++ "): " ++
        event.reason.message

end Note

structure Compilation where
  plan : Plan := []
  skipped : List SkippedEvent := []
  notes : List Note := []
deriving DecidableEq, Repr

namespace Compilation

/-- What the event at the given index adds. -/
def ofEvent (index : Nat) (e : Event) : Compilation :=
  let ignored := e.ignoredControls.map Note.ignoredControl
  match e.replay with
  | .ok actions => { plan := actions, notes := ignored }
  | .error reason =>
      let skipped : SkippedEvent := ⟨index, e.kind.name, reason⟩
      { skipped := [skipped], notes := ignored ++ [.skipped skipped] }

def append (a b : Compilation) : Compilation :=
  ⟨a.plan ++ b.plan, a.skipped ++ b.skipped, a.notes ++ b.notes⟩

/-- Compiles events of which the first has the given index. -/
def ofEventsFrom (index : Nat) : List Event → Compilation
  | [] => {}
  | e :: rest => (ofEvent index e).append (ofEventsFrom (index + 1) rest)

def ofEvents (events : List Event) : Compilation := ofEventsFrom 0 events

end Compilation

end Retrace
