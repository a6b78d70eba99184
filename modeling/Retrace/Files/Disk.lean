import Retrace.Files.Path

/-!
A tree of files with a current folder, and what can be done to it through paths. A step up leaves
the folder that the steps before it have reached, so it needs that folder to exist. A path whose
text cannot be a path is refused before anything is looked up or made.
-/

namespace Retrace.Files

/-- Why a path could not be used. -/
inductive Failure where
  | missing
  | notAFolder
  | isAFolder
  | occupied
  | nameTooLong
  | nulInPath
deriving DecidableEq, Repr

def Failure.message : Failure → String
  | .missing => "No such file or directory (os error 2)"
  | .notAFolder => "Not a directory (os error 20)"
  | .isAFolder => "Is a directory (os error 21)"
  | .occupied => "File exists (os error 17)"
  | .nameTooLong => "File name too long (os error 36)"
  | .nulInPath => "file name contained an unexpected NUL byte"

/-- Why a path is refused, whatever the files are. The length counts as it is spelled, also where
the steps lead nowhere. -/
def Path.refusal? (path : Path) : Option Failure :=
  if path.holdsNul then some .nulInPath
  else if path.isTooLong then some .nameTooLong
  else none

structure Disk where
  tree : Node := .folder []
  /-- The folder that relative paths start from. -/
  current : Route := []

/-- Names take at most this many bytes. -/
def nameLimit : Nat := 255

def tooLong (name : String) : Bool := nameLimit < name.utf8ByteSize

/-- Where steps lead. Every step needs a folder to start from; the last name need not exist. -/
def follow (tree : Node) (here : Route) : List Step → Except Failure Route
  | [] => .ok here
  | step :: rest =>
      match tree.at? here with
      | none => .error .missing
      | some (.file _) => .error .notAFolder
      | some (.folder _) =>
          match step with
          | .stay => follow tree here rest
          | .up => follow tree here.dropLast rest
          | .down name =>
              if tooLong name then .error .nameTooLong else follow tree (here ++ [name]) rest

/-- Makes the folders that are missing along the steps, one after the other, and keeps those it has
made when a later one cannot be made. -/
def makeAlong (tree : Node) (here : Route) : List Step → Node × Except Failure Unit
  | [] => (tree, .ok ())
  | .stay :: rest => makeAlong tree here rest
  | .up :: rest => makeAlong tree here.dropLast rest
  | .down name :: rest =>
      if tooLong name then (tree, .error .nameTooLong)
      else
        match tree.at? (here ++ [name]) with
        | some (.folder _) => makeAlong tree (here ++ [name]) rest
        | some (.file _) => (tree, .error (if rest.isEmpty then .occupied else .notAFolder))
        | none =>
            if ¬ rest.isEmpty ∧ rest.all (· = .stay) then (tree, .error .missing)
            else makeAlong (tree.put (here ++ [name]) (.folder [])) (here ++ [name]) rest

namespace Disk

def start (disk : Disk) (path : Path) : Route := if path.isAbsolute then [] else disk.current

def route (disk : Disk) (path : Path) : Except Failure Route :=
  match path.refusal? with
  | some failure => .error failure
  | none => follow disk.tree (disk.start path) path.lookupSteps

/-- What a path leads to. -/
def find (disk : Disk) (path : Path) : Except Failure Node :=
  match disk.route path with
  | .error failure => .error failure
  | .ok route =>
      match disk.tree.at? route with
      | some node => .ok node
      | none => .error .missing

def at? (disk : Disk) (path : Path) : Option Node := (disk.find path).toOption

/-- The content of a file, if it is text. -/
def readText? (disk : Disk) (path : Path) : Option String :=
  match disk.at? path with
  | some (.file content) => String.fromUTF8? content
  | _ => none

/-- Makes a folder with its missing parents. -/
def makeFolders (disk : Disk) (path : Path) : Disk × Except Failure Unit :=
  match path.refusal? with
  | some failure => (disk, .error failure)
  | none =>
      let (tree, result) := makeAlong disk.tree (disk.start path) path.steps
      ({ disk with tree }, result)

/-- Writes a file into a folder that exists, in place of the file of that name. -/
def write (disk : Disk) (path : Path) (content : ByteArray) : Disk × Except Failure Unit :=
  match disk.route path with
  | .error failure => (disk, .error failure)
  | .ok route =>
      match disk.tree.at? route with
      | some (.folder _) => (disk, .error .isAFolder)
      | _ => ({ disk with tree := disk.tree.put route (.file content) }, .ok ())

def writeText (disk : Disk) (path : Path) (text : String) : Disk × Except Failure Unit :=
  disk.write path text.toUTF8

@[simp] theorem current_makeFolders (disk : Disk) (path : Path) :
    (disk.makeFolders path).1.current = disk.current := by
  unfold makeFolders
  split <;> rfl

end Disk

end Retrace.Files
