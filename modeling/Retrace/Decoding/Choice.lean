import Retrace.Decoding.Basic

/-!
Choices: one of a fixed set of names, standing for itself. A name may also be written as an object
whose only member has the name as its key and null as its value.
-/

namespace Retrace.Decoding

variable {α : Type}

def pick (known : List (String × α)) (name : String) : Except Fault α :=
  match known.lookup name with
  | some a => .ok a
  | none => .error (.unknownVariant name (known.map Prod.fst))

/-- A choice in its object form. In text the name is looked at before the members are counted. -/
def choiceObject (known : List (String × α)) : Origin → Document.Members → Except Fault α
  | .text levels, members => do
      let inner ← (Origin.text levels).enter
      match members with
      | (some key, d) :: rest => do
          let a ← pick known key
          nothing inner d
          if rest.isEmpty then .ok a else .error .malformed
      | _ => .error .malformed
  | .value, [(some key, d)] => do
      let a ← pick known key
      nothing .value d
      return a
  | .value, _ => .error (.wrongValue .map "map with a single key")

def choice (known : List (String × α)) : Decoder α := fun origin document =>
  match document with
  | .string (some name) => pick known name
  | .string none => .error .malformed
  | .object members => choiceObject known origin members
  | d =>
      match origin with
      | .text _ => .error .malformed
      | .value => mismatch "string or map" d

/-- A choice where only the plain name is allowed. -/
def identifier (known : List (String × α)) : Decoder α := fun _ document =>
  match document with
  | .string (some name) => pick known name
  | d => mismatch "variant identifier" d

end Retrace.Decoding
