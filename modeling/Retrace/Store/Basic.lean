import Retrace.Event
import Retrace.Files.Disk
import Retrace.Text.Blank

/-!
The store of recorded events. An event file lies at `root/day/task/name`, so a task id is the name
of a folder; `ValidTaskId` says which ids can be one.
-/

namespace Retrace

open Files Text

/-- Why the store could not do what was asked. -/
inductive StoreError where
  | notFound (path : String)
  | notADirectory (path : String)
  | noEventFiles (path : String)
  | invalidTaskId (id : String)
  | io (path : String) (cause : String)
  | json (path : String) (cause : String)
  | walk (path : String) (cause : String)
deriving DecidableEq, Repr

namespace StoreError

def walkText (path cause : String) : String :=
  "IO error for operation on " ++ path ++ ": " ++ cause

def message : StoreError → String
  | .notFound path => "given path does not exist: " ++ path
  | .notADirectory path => "path is not a directory: " ++ path
  | .noEventFiles path => "no *.json files found under " ++ path
  | .invalidTaskId id => "invalid task id '" ++ id ++ "'"
  | .io path cause => "I/O error at " ++ path ++ ": " ++ cause
  | .json path cause => "invalid JSON in " ++ path ++ ": " ++ cause
  | .walk path cause => "failed to walk directory: " ++ walkText path cause

/-- What an error was caused by, the nearest cause first. -/
def causes : StoreError → List String
  | .io _ cause | .json _ cause => [cause]
  | .walk path cause => [walkText path cause, cause]
  | _ => []

def ofFailure (path : Path) (failure : Failure) : StoreError := .io path.text failure.message

end StoreError

/-- An id that names a folder of its own: not blank, no step within or out of the store. -/
def ValidTaskId (id : String) : Prop :=
  (∃ c ∈ id.toList, isBlank c = false) ∧ id ≠ "." ∧ id ≠ ".." ∧
    '/' ∉ id.toList ∧ '\\' ∉ id.toList ∧ '\x00' ∉ id.toList

instance (id : String) : Decidable (ValidTaskId id) :=
  @instDecidableAnd _ _ (List.decidableBEx _ _) inferInstance

def requireTaskId (id : String) : Except StoreError Unit :=
  if ValidTaskId id then .ok () else .error (.invalidTaskId id)

theorem requireTaskId_eq_ok_iff {id : String} : requireTaskId id = .ok () ↔ ValidTaskId id := by
  unfold requireTaskId
  split <;> simp_all

structure Store where
  root : Path
  /-- The number of the next save. -/
  next : UInt64 := 0
deriving DecidableEq, Repr

/-- An event with the file it was read from. -/
structure LoadedEvent where
  path : Path
  event : Event

end Retrace
