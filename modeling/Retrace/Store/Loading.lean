import Retrace.Event.Decoding
import Retrace.Store.Listing
import Retrace.Stream

/-!
Loading of recorded events, and bundles from them. A file that cannot be read as an event is left
out; messages name an event by its file.
-/

namespace Retrace

open Files

namespace Files.Disk

def readEvent? (disk : Disk) (path : Path) : Option Event :=
  match disk.readText? path with
  | some text => (Event.ofText text).toOption
  | none => none

/-- The events of the given files, in the given order. -/
def readEvents (disk : Disk) (paths : List Path) : List LoadedEvent :=
  paths.filterMap fun path => (disk.readEvent? path).map (⟨path, ·⟩)

/-- The events of a folder, which must hold at least one event file. -/
def folderEvents (disk : Disk) (path : Path) : Except StoreError (List LoadedEvent) :=
  match disk.at? path with
  | none => .error (.notFound path.text)
  | some (.file _) => .error (.notADirectory path.text)
  | some (.folder _) => do
      let files ← disk.eventFiles path
      if files.isEmpty then .error (.noEventFiles path.text) else .ok (disk.readEvents files)

end Files.Disk

/-- The events of a task over all days. -/
def Store.events (store : Store) (disk : Disk) (id : String) :
    Except StoreError (List LoadedEvent) := do
  return disk.readEvents (← store.eventFiles disk id)

namespace LoadedEvent

/-- The name of the file. -/
def label (loaded : LoadedEvent) : String := loaded.path.fileName?.getD loaded.path.text

def labelled (loaded : LoadedEvent) : Labelled := ⟨loaded.label, loaded.event⟩

end LoadedEvent

def Bundle.ofLoaded (loaded : List LoadedEvent) : Except StreamError Bundle :=
  Labelled.bundle (loaded.map LoadedEvent.labelled)

end Retrace
