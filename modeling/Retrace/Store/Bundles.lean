import Retrace.Bundle
import Retrace.Store.Basic

/-!
Bundles on disk. A folder holds at most one bundle for a task.
-/

namespace Retrace

open Files

namespace Bundle

def fileName (id : String) : String := "wap_exact_replay_list_" ++ id ++ ".json"

/-- Writes a bundle into a folder, which is made if it is missing. -/
def write (bundle : Bundle) (folder : Path) (disk : Disk) : Disk × Except StoreError Path :=
  match requireTaskId bundle.taskId with
  | .error e => (disk, .error e)
  | .ok () =>
      match disk.makeFolders folder with
      | (disk, .error failure) => (disk, .error (.ofFailure folder failure))
      | (disk, .ok ()) =>
          let path := folder.join (fileName bundle.taskId)
          match disk.writeText path bundle.pretty with
          | (disk, .error failure) => (disk, .error (.ofFailure path failure))
          | (disk, .ok ()) => (disk, .ok path)

end Bundle

end Retrace
