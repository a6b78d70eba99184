import Retrace.Decoding.Record
import Retrace.Event

/-!
Decoding of events. All their members are optional, and only the shape of the target can make an
event unreadable; identifiers and kinds are taken from any value.
-/

namespace Retrace

open Decoding

namespace Target

def record : Record Target where
  expected := "struct TargetDescriptor"
  start := {}
  fields := [
    .optional "targetId" (optional text) fun v t => { t with targetId := v },
    .optional "target" (optional text) fun v t => { t with target := v },
    .optional "value" (optional json) fun v t => { t with value := v },
    .optional "selector" (optional text) fun v t => { t with selector := v }]

def decode : Decoder Target := record.decode

end Target

namespace Control

def record : Record Control where
  expected := "struct ControlSnapshot"
  start := {}
  fields := [
    .optional "selector" (optional text) fun v c => { c with selector := v },
    .optional "tag" (optional text) fun v c => { c with tag := v },
    .optional "type" (optional text) fun v c => { c with inputType := v },
    .optional "value" (optional json) fun v c => { c with value := v }]

def decode : Decoder Control := record.decode

end Control

namespace NavigationEntry

def record : Record NavigationEntry where
  expected := "struct NavigationEntry"
  start := {}
  fields := [.optional "current_url" (optional text) fun v e => { e with currentUrl := v }]

def decode : Decoder NavigationEntry := record.decode

end NavigationEntry

namespace Event

/-- A text that a recorder may have sent as any other value. -/
def anyText : Decoder String := fun origin document => (json origin document).map Json.plainText

def record : Record Event where
  expected := "struct RecordedEvent"
  start := {}
  fields := [
    .optional "type" json fun v e => { e with kind := .ofJson v },
    .optional "eventTarget" (optional Target.decode) fun v e => { e with target := v },
    .optional "allEvents" (optional json) fun v e => { e with payload := v.map .ofJson },
    .optional "taskId" (optional anyText) fun v e => { e with taskId := v },
    .optional "taskDescription" (optional anyText) fun v e => { e with description := v }]
  other := fun name origin document e =>
    (json origin document).map fun v => { e with extra := Entries.set name v e.extra }

def decode : Decoder Event := record.decodeObject

def ofJson (v : Json) : Except Fault Event := Decoding.ofJson decode v

def ofText (s : String) : Except Fault Event := Decoding.ofText decode s

/-- The first entry of the history. A first item that is no entry counts as none at all, whatever
follows it. -/
def firstNavigation (e : Event) : Option NavigationEntry :=
  match e.payload with
  | some (.history (item :: _)) => (Decoding.ofJson NavigationEntry.decode item).toOption
  | _ => none

/-- The controls of a form in their order, without the members that are no controls. -/
def controls (e : Event) : Option (List (String × Control)) :=
  match e.payload with
  | some (.controls members) =>
      some (members.filterMap fun (name, v) =>
        (Decoding.ofJson Control.decode v).toOption.map fun c => (name, c))
  | _ => none

end Event

end Retrace
