import Retrace.Moment
import Retrace.Store.Basic

/-!
Saving of events. A save makes its folder, takes a number and writes its file; between these steps
other saves may take theirs. No number is taken by a save that has no folder.
-/

namespace Retrace

open Files

/-- A save that has its folder. -/
structure PendingSave where
  event : Json
  folder : Path
  moment : Moment

/-- The id that an event names, if it is valid. -/
def recordedTaskId (event : Json) : Except StoreError String :=
  match event.get? "taskId" with
  | some (.string id) => do
      requireTaskId id
      return id
  | _ => .error (.invalidTaskId "<missing>")

def eventFileName (moment : Moment) (number : UInt64) : String :=
  "summary_event_" ++ moment.stampText ++ "_" ++ String.ofList (Decimal.padded 6 number.toNat) ++
    ".json"

namespace Store

def taskFolder (root : Path) (moment : Moment) (id : String) : Path :=
  (root.join moment.dayText).join id

theorem taskFolder_eq (root : Path) (moment : Moment) (id : String) :
    taskFolder root moment id = root.append [moment.dayText, id] := by
  simp [taskFolder, Path.join, Path.append]

theorem taskFolder_join (root : Path) (moment : Moment) (id name : String) :
    (taskFolder root moment id).join name = root.append [moment.dayText, id, name] := by
  simp [taskFolder, Path.join, Path.append]

/-- The first step of a save. -/
def prepare (root : Path) (moment : Moment) (event : Json) (disk : Disk) :
    Disk × Except StoreError PendingSave :=
  match recordedTaskId event with
  | .error e => (disk, .error e)
  | .ok id =>
      let folder := taskFolder root moment id
      match disk.makeFolders folder with
      | (disk, .error failure) => (disk, .error (.ofFailure folder failure))
      | (disk, .ok ()) => (disk, .ok ⟨event, folder, moment⟩)

/-- The second step of a save. -/
def takeNumber (store : Store) : Store × UInt64 :=
  ({ store with next := store.next + 1 }, store.next)

end Store

namespace PendingSave

def path (pending : PendingSave) (number : UInt64) : Path :=
  pending.folder.join (eventFileName pending.moment number)

/-- The last step of a save. -/
def write (pending : PendingSave) (number : UInt64) (disk : Disk) : Disk × Except StoreError Path :=
  match disk.writeText (pending.path number) pending.event.pretty with
  | (disk, .error failure) => (disk, .error (.ofFailure (pending.path number) failure))
  | (disk, .ok ()) => (disk, .ok (pending.path number))

end PendingSave

/-- Saves an event under the task it names. -/
def Store.save (store : Store) (moment : Moment) (event : Json) (disk : Disk) :
    Store × Disk × Except StoreError Path :=
  match Store.prepare store.root moment event disk with
  | (disk, .error e) => (store, disk, .error e)
  | (disk, .ok pending) =>
      let (store, number) := store.takeNumber
      (store, pending.write number disk)

end Retrace
