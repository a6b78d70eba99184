import Retrace.Decoding.Fault
import Retrace.Entries
import Retrace.Json.Reader

/-!
Decoders of single values. A document either comes from text, where nesting is limited and an
overlong array is a flaw of the text, or stands for a value already in memory.
-/

namespace Retrace.Decoding

inductive Origin where
  /-- Text, with the number of further arrays and objects that may be opened. -/
  | text (levels : Nat)
  | value
deriving DecidableEq, Repr

/-- Text may nest this deep. -/
def nestingLimit : Nat := 127

namespace Origin

/-- The origin of what an array or object holds. -/
def enter : Origin → Except Fault Origin
  | .text 0 => .error .malformed
  | .text (levels + 1) => .ok (.text levels)
  | .value => .ok .value

/-- How an array of `length` items is refused when only some of them belong to the value. -/
def overlong (length : Nat) : Origin → Fault
  | .text _ => .malformed
  | .value => .wrongLength length "fewer elements in array"

end Origin

abbrev Decoder (α : Type) := Origin → Document → Except Fault α

/-- What a refused document is called. A leaf that stands for nothing is malformed. -/
def found : Document → Except Fault Found
  | .null => .ok .null
  | .bool b => .ok (.boolean b)
  | .number none => .error .malformed
  | .number (some (.integer i)) => .ok (.integer i)
  | .number (some (.double d)) => .ok (.double d)
  | .string none => .error .malformed
  | .string (some s) => .ok (.string s)
  | .array _ => .ok .sequence
  | .object _ => .ok .map

def mismatch {α : Type} (expected : String) (document : Document) : Except Fault α :=
  match found document with
  | .ok found => .error (.wrongType found expected)
  | .error fault => .error fault

/-- As `mismatch`, for a decoder that opens arrays and objects before it refuses them. -/
def mismatchOpened {α : Type} (expected : String) (origin : Origin) (document : Document) :
    Except Fault α :=
  match document with
  | .array _ | .object _ => do
      let _ ← origin.enter
      mismatch expected document
  | _ => mismatch expected document

def text : Decoder String := fun _ document =>
  match document with
  | .string (some s) => .ok s
  | d => mismatch "a string" d

def flag : Decoder Bool := fun _ document =>
  match document with
  | .bool b => .ok b
  | d => mismatch "a boolean" d

/-- An integer from zero up to but not including `bound`. -/
def natural (bound : Nat) (expected : String) : Decoder Nat := fun _ document =>
  match document with
  | .number (some (.integer i)) =>
      if 0 ≤ i ∧ i < bound then .ok i.toNat else .error (.wrongValue (.integer i) expected)
  | d => mismatch expected d

def word64 : Decoder UInt64 := fun origin document =>
  (natural (Nat.pow 2 64) "u64" origin document).map UInt64.ofNat

def word32 : Decoder UInt32 := fun origin document =>
  (natural (Nat.pow 2 32) "u32" origin document).map UInt32.ofNat

def nothing : Decoder Unit := fun _ document =>
  match document with
  | .null => .ok ()
  | d => mismatch "unit" d

def optional {α : Type} (decode : Decoder α) : Decoder (Option α) := fun origin document =>
  match document with
  | .null => .ok none
  | d => (decode origin d).map some

def sequence {α : Type} (decode : Decoder α) : Decoder (List α) := fun origin document =>
  match document with
  | .array items => do
      let inner ← origin.enter
      items.mapM (decode inner)
  | d => mismatch "a sequence" d

mutual

/-- Any value at all. A repeated key keeps its first place and takes its last value. -/
def json (origin : Origin) : Document → Except Fault Json
  | .null => .ok .null
  | .bool b => .ok (.bool b)
  | .number (some n) => .ok (.number n)
  | .string (some s) => .ok (.string s)
  | .number none | .string none => .error .malformed
  | .array items => do
      let inner ← origin.enter
      return .array (← jsonItems inner items)
  | .object members => do
      let inner ← origin.enter
      return .object (← jsonMembers inner [] members)

def jsonItems (origin : Origin) : List Document → Except Fault (List Json)
  | [] => .ok []
  | d :: rest => do
      let v ← json origin d
      return v :: (← jsonItems origin rest)

def jsonMembers (origin : Origin) (done : Json.Members) :
    List (Option String × Document) → Except Fault Json.Members
  | [] => .ok done
  | (none, _) :: _ => .error .malformed
  | (some key, d) :: rest => do
      let v ← json origin d
      jsonMembers origin (Entries.set key v done) rest

end

/-- Decodes a whole text. -/
def ofText {α : Type} (decode : Decoder α) (text : String) : Except Fault α :=
  match Document.read text with
  | some document => decode (.text nestingLimit) document
  | none => .error .malformed

/-- Decodes a value in memory. -/
def ofJson {α : Type} (decode : Decoder α) (value : Json) : Except Fault α :=
  decode .value (Document.ofJson value)

end Retrace.Decoding

namespace Retrace.Json

def ofText (text : String) : Except Decoding.Fault Json := Decoding.ofText Decoding.json text

end Retrace.Json
