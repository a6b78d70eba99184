import Retrace.Files.Node
import Retrace.Json.Basic

/-!
Trees of text files as JSON: a file is its text, a folder the object of its entries.
-/

namespace Retrace.Files.Node

mutual

def ofJson? : Json → Option Node
  | .string text => some (.file text.toUTF8)
  | .object members => (entriesOfJson? members).map .folder
  | _ => none

def entriesOfJson? : List (String × Json) → Option (List (String × Node))
  | [] => some []
  | (name, value) :: rest =>
      match ofJson? value, entriesOfJson? rest with
      | some node, some entries => some ((name, node) :: entries)
      | _, _ => none

end

mutual

/-- A file that is no text is left empty. -/
def toJson : Node → Json
  | .file content => .string ((String.fromUTF8? content).getD "")
  | .folder entries => .object (entriesToJson entries)

def entriesToJson : List (String × Node) → List (String × Json)
  | [] => []
  | (name, node) :: rest => (name, toJson node) :: entriesToJson rest

end

end Retrace.Files.Node
