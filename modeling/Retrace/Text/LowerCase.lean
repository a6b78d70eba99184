import Retrace.Text.CaseTables

/-!
Lower-casing of whole texts. Two letters need more than the table: the dotted capital I becomes
two characters, and a capital sigma takes its final form at the end of a word.
-/

namespace Retrace.Text

def findLower : List (Nat × Nat × Nat × Nat) → Nat → Option Nat
  | [], _ => none
  | (first, last, step, image) :: rest, n =>
      if n < first then none
      else if n ≤ last then
        if (n - first) % step = 0 then some (image + (n - first)) else findLower rest n
      else findLower rest n

/-- The lower-case form of a character that stands alone. -/
def lowerChar (c : Char) : List Char :=
  if c = 'İ' then ['i', '\u0307'] else [((findLower lowerRuns c.toNat).map Char.ofNat).getD c]

/-- The nearest character that is not Case_Ignorable is there and is Cased. -/
def meetsCased (text : List Char) : Bool :=
  match text.dropWhile isCaseIgnorable with
  | [] => false
  | c :: _ => isCased c

/-- Lower-cases a text, `before` being what precedes it, nearest character first. -/
def lowerAfter (before : List Char) : List Char → List Char
  | [] => []
  | c :: rest =>
      (if c = 'Σ' then [if meetsCased before && !meetsCased rest then 'ς' else 'σ']
        else lowerChar c) ++ lowerAfter (c :: before) rest

def lower (text : List Char) : List Char := lowerAfter [] text

end Retrace.Text
