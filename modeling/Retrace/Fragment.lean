import Retrace.Entries
import Retrace.Text.Blank
import Retrace.Text.LowerCase
import Retrace.Text.Word

/-!
Fragments of markup as a recorder captures them: an element with a few levels of its children, cut
off anywhere. They are scanned, not parsed, so that every attribute in the fragment counts as one
of the element's own. What is read: the first opening tag, the attributes in double quotes, and the
text outside the tags.
-/

namespace Retrace

open Text

namespace Fragment

/-- The name of the first tag that is closed somewhere later in the fragment. -/
def tagName? : List Char → Option (List Char)
  | [] => none
  | c :: rest =>
      let name := (rest.dropWhile isBlank).takeWhile isWord
      if c = '<' ∧ name ≠ [] ∧ '>' ∈ rest then some name else tagName? rest

def isNameChar (c : Char) : Bool := isWord c || c == ':' || c == '-'

/-- The value that follows a name, with what comes after its closing quote. -/
def attributeValue? (text : List Char) : Option (List Char × List Char) :=
  match text.dropWhile isBlank with
  | '=' :: rest =>
      match rest.dropWhile isBlank with
      | '"' :: rest =>
          match rest.dropWhile (· != '"') with
          | _ :: after => some (rest.takeWhile (· != '"'), after)
          | [] => none
      | _ => none
  | _ => none

theorem length_dropWhile_le {α : Type} (p : α → Bool) :
    ∀ l : List α, (l.dropWhile p).length ≤ l.length
  | [] => Nat.le_refl _
  | a :: l => by
      rw [List.dropWhile_cons]
      split
      · exact Nat.le_succ_of_le (length_dropWhile_le p l)
      · exact Nat.le_refl _

theorem length_lt_of_attributeValue? {text value after : List Char}
    (h : attributeValue? text = some (value, after)) : after.length < text.length := by
  unfold attributeValue? at h
  split at h
  · next rest h1 =>
      have l1 := length_dropWhile_le isBlank text
      rw [h1, List.length_cons] at l1
      split at h
      · next rest' h2 =>
          have l2 := length_dropWhile_le isBlank rest
          rw [h2, List.length_cons] at l2
          split at h
          · next after' h3 =>
              have l3 := length_dropWhile_le (· != '"') rest'
              rw [h3, List.length_cons] at l3
              cases h
              omega
          · cases h
      · cases h
  · cases h

/-- The successive attributes of a fragment: a longest run of name characters, an equals sign and a
value in double quotes, blanks being allowed around the sign. -/
def occurrences (text : List Char) : List (List Char × List Char) :=
  match text with
  | [] => []
  | c :: rest =>
      if isNameChar c then
        match _h : attributeValue? (rest.dropWhile isNameChar) with
        | some (value, after) => (c :: rest.takeWhile isNameChar, value) :: occurrences after
        | none => occurrences (rest.dropWhile isNameChar)
      else occurrences rest
termination_by text.length
decreasing_by
  · have h1 := length_lt_of_attributeValue? _h
    have h2 := length_dropWhile_le isNameChar rest
    simp only [List.length_cons]
    omega
  · have := length_dropWhile_le isNameChar rest
    simp only [List.length_cons]
    omega
  · simp

/-- What follows the tag that starts right before `text`, if one does: at least one character up
to the closing bracket. -/
def afterTag? (text : List Char) : Option (List Char) :=
  match text with
  | '>' :: _ => none
  | text =>
      match text.dropWhile (· != '>') with
      | _ :: after => some after
      | [] => none

theorem length_lt_of_afterTag? {text after : List Char} (h : afterTag? text = some after) :
    after.length < text.length := by
  unfold afterTag? at h
  split at h
  · cases h
  · split at h
    · next h1 =>
        have l1 := length_dropWhile_le (· != '>') text
        rw [h1, List.length_cons] at l1
        cases h
        omega
    · cases h

/-- The fragment without its tags. -/
def outsideTags (text : List Char) : List Char :=
  match text with
  | [] => []
  | c :: rest =>
      if c = '<' then
        match _h : afterTag? rest with
        | some after => outsideTags after
        | none => c :: outsideTags rest
      else c :: outsideTags rest
termination_by text.length
decreasing_by
  · have := length_lt_of_afterTag? _h
    simp only [List.length_cons]
    omega
  · simp
  · simp

/-- One blank for every run of blanks; `written` says that one has just been written. -/
def collapseAfter (written : Bool) : List Char → List Char
  | [] => []
  | c :: rest =>
      if isBlank c then
        if written then collapseAfter true rest else ' ' :: collapseAfter true rest
      else c :: collapseAfter false rest

def collapse (text : List Char) : List Char := collapseAfter false text

def visible (text : List Char) : List Char := trim (collapse (outsideTags text))

/-- An attribute name that is `type` but for the case of its letters. -/
def isTypeName (name : List Char) : Bool := name.map Char.toLower == ['t', 'y', 'p', 'e']

def typeValue? (text : List Char) : Option (List Char) :=
  ((occurrences text).find? fun o => isTypeName o.1).map Prod.snd

end Fragment

/-- What a fragment says about its element. -/
structure Fragment where
  /-- The visible text in normal form. -/
  text : Option String
  /-- The first opening tag in lower case. -/
  tag : Option String
  /-- Present for an `input` only, and empty when it has no type. -/
  inputType : Option String
deriving DecidableEq, Repr

namespace Fragment

def lowerText (text : List Char) : String := String.ofList (lower text)

def read (html : String) : Fragment :=
  let text := html.toList
  let tag := (tagName? text).map lowerText
  { text := if visible text = [] then none else some (String.ofList (visible text))
    tag
    inputType :=
      if tag = some "input" then some (((typeValue? text).map lowerText).getD "") else none }

/-- The attributes by lower-case name: each at its first place, with its last value. -/
def attributes (html : String) : List (String × String) :=
  (occurrences html.toList).foldl
    (fun found o => Entries.set (lowerText o.1) (String.ofList o.2) found) []

end Fragment

end Retrace
