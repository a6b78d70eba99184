import Retrace.Files.Node
import Retrace.Text.Pieces

/-!
Paths as they are spelled. What is appended to a path is kept apart from the spelling, because a
name from a folder is one step whatever its characters are.
-/

namespace Retrace.Files

structure Path where
  base : String
  /-- The names below the base. -/
  below : Route := []
deriving DecidableEq, Repr

/-- One step along a path. `stay` asks for a folder and goes nowhere. -/
inductive Step where
  | stay
  | up
  | down (name : String)
deriving DecidableEq, Repr

/-- An empty piece is no step. -/
def Step.ofPiece? : List Char → Option Step
  | [] => none
  | ['.'] => some .stay
  | ['.', '.'] => some .up
  | name => some (.down (String.ofList name))

namespace Path

def join (path : Path) (name : String) : Path := { path with below := path.below ++ [name] }

def append (path : Path) (route : Route) : Path := { path with below := path.below ++ route }

def endsWithSlash (text : String) : Bool := text.toList.getLast? == some '/'

/-- One slash goes between two parts, unless the first is empty or brings its own. -/
def joinText (text name : String) : String :=
  if text = "" ∨ endsWithSlash text then text ++ name else text ++ "/" ++ name

def text (path : Path) : String := path.below.foldl joinText path.base

/-- The text of a path takes at most this many bytes. -/
def textLimit : Nat := 4095

def isTooLong (path : Path) : Bool := textLimit < path.text.utf8ByteSize

def holdsNul (path : Path) : Bool := path.text.toList.contains '\x00'

def isAbsolute (path : Path) : Bool := path.base.toList.head? == some '/'

/-- The steps of a path, without a slash at its end. -/
def steps (path : Path) : List Step :=
  (Text.pieces '/' path.base.toList).filterMap Step.ofPiece? ++ path.below.map Step.down

/-- The steps to something that exists: a slash at the end asks for a folder. -/
def lookupSteps (path : Path) : List Step :=
  if path.below.isEmpty ∧ endsWithSlash path.base then path.steps ++ [.stay] else path.steps

/-- The last name, if the path ends in one. -/
def fileName? (path : Path) : Option String :=
  match (path.steps.filter (· ≠ .stay)).getLast? with
  | some (.down name) => some name
  | _ => none

theorem text_join (path : Path) (name : String) :
    (path.join name).text = joinText path.text name := by
  simp [text, join]

end Path

end Retrace.Files
