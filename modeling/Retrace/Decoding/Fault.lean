import Retrace.Json.Writer
import Retrace.Text.Quoted

/-!
Why a document was refused. `malformed` covers text that is no JSON as well as the few shapes that
are reported in the same way; every other cause has a message.
-/

namespace Retrace.Decoding

open Decimal

/-- What stood in the document, as a message names it. -/
inductive Found where
  | null
  | boolean (b : Bool)
  | integer (i : Int)
  | double (d : Double)
  | string (s : String)
  | sequence
  | map
deriving DecidableEq, Repr

inductive Fault where
  | malformed
  | wrongType (found : Found) (expected : String)
  | wrongValue (found : Found) (expected : String)
  | wrongLength (length : Nat) (expected : String)
  | missingField (name : String)
  | duplicateField (name : String)
  | unknownVariant (name : String) (known : List String)
deriving DecidableEq, Repr

def inTicks (text : String) : String := "`" ++ text ++ "`"

def Found.text : Found → String
  | .null => "null"
  | .boolean b => "boolean " ++ inTicks (if b then "true" else "false")
  | .integer i => "integer " ++ inTicks (String.ofList (Number.integer i).text)
  | .double d => "floating point " ++ inTicks (String.ofList d.text)
  | .string s => "string " ++ Text.quoted s
  | .sequence => "sequence"
  | .map => "map"

/-- The names that would have been accepted. -/
def knownText : List String → String
  | [] => "there are no variants"
  | [name] => "expected " ++ inTicks name
  | [first, second] => "expected " ++ inTicks first ++ " or " ++ inTicks second
  | names => "expected one of " ++ ", ".intercalate (names.map inTicks)

/-- The message of a fault, where its wording is fixed. -/
def Fault.message? : Fault → Option String
  | .malformed => none
  | .wrongType found expected => some ("invalid type: " ++ found.text ++ ", expected " ++ expected)
  | .wrongValue found expected =>
      some ("invalid value: " ++ found.text ++ ", expected " ++ expected)
  | .wrongLength length expected =>
      some ("invalid length " ++ toString length ++ ", expected " ++ expected)
  | .missingField name => some ("missing field " ++ inTicks name)
  | .duplicateField name => some ("duplicate field " ++ inTicks name)
  | .unknownVariant name known =>
      some ("unknown variant " ++ inTicks name ++ ", " ++ knownText known)

end Retrace.Decoding
