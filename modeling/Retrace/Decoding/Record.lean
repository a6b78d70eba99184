import Retrace.Decoding.Basic

/-!
Records: values with named fields, decoded from an object or, where the record allows it, from an
array of the fields in their order. One description serves both forms. Members are decoded in the
order in which they stand; a missing field is reported only after all of them.
-/

namespace Retrace.Decoding

structure RecordField (σ : Type) where
  name : String
  required : Bool
  read : Origin → Document → σ → Except Fault σ

/-- A field that is left as it is where the document does not have it. -/
def RecordField.optional {σ α : Type} (name : String) (decode : Decoder α) (set : α → σ → σ) :
    RecordField σ :=
  ⟨name, false, fun origin document s => (decode origin document).map fun a => set a s⟩

def RecordField.mandatory {σ α : Type} (name : String) (decode : Decoder α) (set : α → σ → σ) :
    RecordField σ :=
  ⟨name, true, fun origin document s => (decode origin document).map fun a => set a s⟩

structure Record (σ : Type) where
  expected : String
  start : σ
  fields : List (RecordField σ)
  /-- What is done with a member that is no field. Unless the record says more it is skipped. -/
  other : String → Origin → Document → σ → Except Fault σ := fun _ _ _ s => .ok s

namespace Record

variable {σ : Type}

def field? (r : Record σ) (name : String) : Option (RecordField σ) :=
  r.fields.find? fun f => f.name == name

/-- Decodes the members into `s`, `seen` being the fields met before. Gives the fields met too. -/
def readMembers (r : Record σ) (origin : Origin) (seen : List String) (s : σ) :
    Document.Members → Except Fault (List String × σ)
  | [] => .ok (seen, s)
  | (none, _) :: _ => .error .malformed
  | (some key, d) :: rest =>
      match r.field? key with
      | none => do
          let s ← r.other key origin d s
          readMembers r origin seen s rest
      | some f =>
          if seen.contains key then .error (.duplicateField key)
          else do
            let s ← f.read origin d s
            readMembers r origin (key :: seen) s rest

/-- The first required field, in the order of declaration, that was not met. -/
def missing? (r : Record σ) (seen : List String) : Option (RecordField σ) :=
  r.fields.find? fun f => f.required && !seen.contains f.name

def ofMembers (r : Record σ) (origin : Origin) (members : Document.Members) : Except Fault σ := do
  let (seen, s) ← r.readMembers origin [] r.start members
  match r.missing? seen with
  | some f => .error (.missingField f.name)
  | none => .ok s

/-- Decodes items against the fields in order, `index` being the place of the first of them. -/
def readItems (r : Record σ) (origin : Origin) (length index : Nat) (s : σ) :
    List (RecordField σ) → List Document → Except Fault σ
  | [], [] => .ok s
  | [], _ :: _ => .error (origin.overlong length)
  | f :: fields, [] =>
      if f.required then
        .error (.wrongLength index
          (r.expected ++ " with " ++ toString r.fields.length ++ " elements"))
      else readItems r origin length (index + 1) s fields []
  | f :: fields, d :: items => do
      let s ← f.read origin d s
      readItems r origin length (index + 1) s fields items

def ofItems (r : Record σ) (origin : Origin) (items : List Document) : Except Fault σ :=
  r.readItems origin items.length 0 r.start r.fields items

/-- The record as an object or as an array. -/
def decode (r : Record σ) : Decoder σ := fun origin document =>
  match document with
  | .object members => do r.ofMembers (← origin.enter) members
  | .array items => do r.ofItems (← origin.enter) items
  | d => mismatch r.expected d

/-- The record as an object only. -/
def decodeObject (r : Record σ) : Decoder σ := fun origin document =>
  match document with
  | .object members => do r.ofMembers (← origin.enter) members
  | d => mismatch r.expected d

/-- The record as an object only, an array being opened before it is refused. -/
def decodeOpened (r : Record σ) : Decoder σ := fun origin document =>
  match document with
  | .object members => do r.ofMembers (← origin.enter) members
  | d => mismatchOpened r.expected origin d

end Record

end Retrace.Decoding
