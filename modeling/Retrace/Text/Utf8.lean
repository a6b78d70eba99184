/-!
Text from bytes of which only the first may be text.
-/

namespace Retrace.Text

/-- The characters from byte `i` on. Where the bytes stop being text a NUL ends them. -/
def leadingFrom (bytes : ByteArray) (i : Nat) : List Char :=
  if i < bytes.size then
    match bytes.utf8DecodeChar? i with
    | some c => c :: leadingFrom bytes (i + c.utf8Size)
    | none => ['\x00']
  else []
termination_by bytes.size - i
decreasing_by
  have := c.utf8Size_pos
  omega

/-- The characters of bytes that are text as a whole or from their start up to some byte. In the
second case they end in a NUL, which no reader of JSON takes for a part of a value. -/
def leading (bytes : ByteArray) : List Char :=
  match String.fromUTF8? bytes with
  | some text => text.toList
  | none => leadingFrom bytes 0

end Retrace.Text
