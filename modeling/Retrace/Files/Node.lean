import Retrace.Entries

/-!
Trees of files. The entries of a folder have different names (`WellFormed`) and come in any order;
what is listed from a tree is in the order of the names.
-/

namespace Retrace.Files

/-- The names that lead down from a node to another one. -/
abbrev Route := List String

inductive Node where
  | file (content : ByteArray)
  | folder (entries : List (String × Node))

namespace Node

instance : Inhabited Node := ⟨.folder []⟩

mutual

def WellFormed : Node → Prop
  | .file _ => True
  | .folder entries => (entries.map Prod.fst).Nodup ∧ EntriesWellFormed entries

def EntriesWellFormed : List (String × Node) → Prop
  | [] => True
  | (_, node) :: rest => WellFormed node ∧ EntriesWellFormed rest

end

def isFolder : Node → Bool
  | .file _ => false
  | .folder _ => true

def content? : Node → Option ByteArray
  | .file content => some content
  | .folder _ => none

/-- The node at the end of a route. -/
def at? : Route → Node → Option Node
  | [], node => some node
  | _ :: _, .file _ => none
  | name :: rest, .folder entries =>
      match entries.lookup name with
      | some node => at? rest node
      | none => none

/-- Puts a node at the end of a route, with the folders that are missing on the way. Below a file
nothing is put. -/
def put : Node → Route → Node → Node
  | _, [], new => new
  | .file content, _ :: _, _ => .file content
  | .folder entries, name :: rest, new =>
      .folder (Entries.set name (((entries.lookup name).getD (.folder [])).put rest new) entries)

@[simp] theorem at?_nil (node : Node) : node.at? [] = some node := by
  cases node <;> rfl

theorem at?_append (first second : Route) (node : Node) :
    node.at? (first ++ second) = (node.at? first).bind (at? second) := by
  induction first generalizing node with
  | nil => simp
  | cons name rest ih =>
      cases node with
      | file _ => rfl
      | folder entries =>
          simp only [List.cons_append, at?]
          cases entries.lookup name with
          | none => rfl
          | some child => exact ih child

/-- What is put into a folder is found there. -/
theorem at?_put_of_folder {node : Node} {route : Route} {entries : List (String × Node)}
    (h : node.at? route = some (.folder entries)) (name : String) (new : Node) :
    (node.put (route ++ [name]) new).at? (route ++ [name]) = some new := by
  induction route generalizing node with
  | nil =>
      rw [at?_nil, Option.some.injEq] at h
      subst h
      simp [put, at?, Entries.lookup_set]
  | cons first rest ih =>
      cases node with
      | file _ => simp [at?] at h
      | folder others =>
          simp only [at?] at h
          cases hl : others.lookup first with
          | none => simp [hl] at h
          | some child =>
              rw [hl] at h
              simp only [List.cons_append, put, at?, Entries.lookup_set, hl, Option.getD_some,
                if_true]
              exact ih h

def nameLe (a b : String × List Route) : Bool := decide (a.1 ≤ b.1)

/-- The routes below the entries of a folder, from the routes below each entry. -/
def inNameOrder (entries : List (String × List Route)) : List Route :=
  (entries.mergeSort nameLe).flatMap fun (name, routes) => routes.map (name :: ·)

mutual

/-- The routes to all files, depth first, siblings in the order of their names. -/
def files : Node → List Route
  | .file _ => [[]]
  | .folder entries => inNameOrder (entryFiles entries)

def entryFiles : List (String × Node) → List (String × List Route)
  | [] => []
  | (name, node) :: rest => (name, files node) :: entryFiles rest

end

mutual

/-- The routes to all folders, each before the folders in it. -/
def folders : Node → List Route
  | .file _ => []
  | .folder entries => [] :: inNameOrder (entryFolders entries)

def entryFolders : List (String × Node) → List (String × List Route)
  | [] => []
  | (name, node) :: rest => (name, folders node) :: entryFolders rest

end

end Node

/-- Routes name by name, each name by its characters; a route comes before its continuations. -/
def Route.le : Route → Route → Bool
  | [], _ => true
  | _ :: _, [] => false
  | a :: as, b :: bs => if a = b then Route.le as bs else decide (a < b)

def Route.sort (routes : List Route) : List Route := routes.mergeSort Route.le

end Retrace.Files
