import Retrace.Store.Basic

/-!
Which files hold events, and in which order: by path, name by name. An event file has the extension
`json` in any case of its letters; a leading dot starts no extension. A walk opens every folder that
it meets, so it fails at the first one whose path is too long.
-/

namespace Retrace

open Files

def isEventFileName (name : String) : Bool :=
  (Text.cutLast? '.' name.toList).any fun cut => cut.2.map Char.toLower == ['j', 's', 'o', 'n']

/-- The event files below a folder. -/
def Files.Node.eventFiles (node : Node) : List Route :=
  Route.sort (node.files.filter fun route => route.getLast?.any isEventFileName)

/-- The first folder that cannot be opened on a walk from a node at a path. -/
def Files.Node.closedFolder? (node : Node) (path : Path) : Option Path :=
  (node.folders.map path.append).find? Path.isTooLong

/-- The event files that a walk finds below a folder at a path. -/
def Files.Node.walk (node : Node) (path : Path) : Except StoreError (List Route) :=
  match node.closedFolder? path with
  | some closed => .error (.walk closed.text Failure.nameTooLong.message)
  | none => .ok node.eventFiles

/-- The event files at or below a path. -/
def Files.Disk.eventFiles (disk : Disk) (path : Path) : Except StoreError (List Path) :=
  match disk.find path with
  | .error failure => .error (.walk path.text failure.message)
  | .ok (.file _) => .ok (if path.fileName?.any isEventFileName then [path] else [])
  | .ok (.folder entries) => do
      let routes ← (Node.folder entries).walk path
      return routes.map path.append

namespace Store

/-- What a day's entry contributes to the files of a task. A folder of the task whose path is too
long is not seen to be one. -/
def entryFiles (root : Path) (id : String) (entry : String × Node) :
    Except StoreError (List Route) :=
  match entry.2.at? [id] with
  | some (.folder entries) =>
      if (root.append [entry.1, id]).isTooLong then return []
      else do
        let routes ← (Node.folder entries).walk (root.append [entry.1, id])
        return routes.map ([entry.1, id] ++ ·)
  | _ => return []

/-- The event files of a task over all days. A root that is no folder holds none. -/
def eventFiles (store : Store) (disk : Disk) (id : String) : Except StoreError (List Path) := do
  requireTaskId id
  match disk.at? store.root with
  | some (.folder days) => do
      let found ← days.mapM (entryFiles store.root id)
      return (Route.sort found.flatten).map store.root.append
  | _ => return []

end Store

end Retrace
