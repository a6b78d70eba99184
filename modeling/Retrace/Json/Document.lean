import Retrace.Json.Basic

/-!
A JSON text as it was written: members may repeat a key, and a string or number may stand for
nothing that a value can hold. Such a leaf is `none`. It matters only where the leaf is looked at,
so what a reader skips may hold any of these.
-/

namespace Retrace

inductive Document where
  | null
  | bool (b : Bool)
  /-- `none` is a number beyond the range of doubles. -/
  | number (n : Option Number)
  /-- `none` is a string with half of a surrogate pair. -/
  | string (s : Option String)
  | array (items : List Document)
  | object (members : List (Option String × Document))

namespace Document

instance : Inhabited Document := ⟨.null⟩

abbrev Members := List (Option String × Document)

mutual

def ofJson : Json → Document
  | .null => .null
  | .bool b => .bool b
  | .number n => .number (some n)
  | .string s => .string (some s)
  | .array items => .array (ofItems items)
  | .object members => .object (ofMembers members)

def ofItems : List Json → List Document
  | [] => []
  | v :: rest => ofJson v :: ofItems rest

def ofMembers : List (String × Json) → Members
  | [] => []
  | (k, v) :: rest => (some k, ofJson v) :: ofMembers rest

end

end Document

end Retrace
