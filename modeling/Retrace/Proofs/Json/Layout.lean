import Retrace.Json.Reader
import Retrace.Json.Writer

/-!
The two written forms of a value are one text with different blanks. A `Layout` gives the blanks
that stand before an item at some level and after a colon.
-/

namespace Retrace

namespace Json

structure Layout where
  gap : Nat → List Char
  colonGap : List Char

namespace Layout

def compact : Layout := ⟨fun _ => [], []⟩

def pretty : Layout := ⟨newline, [' ']⟩

theorem gap_compact (level : Nat) : compact.gap level = [] := rfl

theorem colonGap_compact : compact.colonGap = [] := rfl

theorem gap_pretty (level : Nat) : pretty.gap level = newline level := rfl

theorem colonGap_pretty : pretty.colonGap = [' '] := rfl

mutual

def text (l : Layout) (level : Nat) : Json → List Char
  | .array [] => ['[', ']']
  | .array (v :: rest) =>
      '[' :: (l.gap (level + 1) ++ (text l (level + 1) v ++ itemsText l level rest))
  | .object [] => ['\x7b', '\x7d']
  | .object ((k, v) :: rest) =>
      '\x7b' :: (l.gap (level + 1) ++ (stringText k ++ ':' :: (l.colonGap ++
        (text l (level + 1) v ++ membersText l level rest))))
  | v => compactText v

/-- The items after the first one, with what closes the array. -/
def itemsText (l : Layout) (level : Nat) : List Json → List Char
  | [] => l.gap level ++ [']']
  | v :: rest => ',' :: (l.gap (level + 1) ++ (text l (level + 1) v ++ itemsText l level rest))

/-- The members after the first one, with what closes the object. -/
def membersText (l : Layout) (level : Nat) : List (String × Json) → List Char
  | [] => l.gap level ++ ['\x7d']
  | (k, v) :: rest =>
      ',' :: (l.gap (level + 1) ++ (stringText k ++ ':' :: (l.colonGap ++
        (text l (level + 1) v ++ membersText l level rest))))

end

mutual

theorem text_compact (level : Nat) : ∀ v : Json, compact.text level v = v.compactText
  | .null | .bool _ | .number _ | .string _ | .array [] | .object [] => by
      simp only [text, compactText]
  | .array (v :: rest) => by
      simp only [text, compactText, text_compact (level + 1) v, itemsText_compact level rest,
        gap_compact, List.nil_append]
  | .object ((k, v) :: rest) => by
      simp only [text, compactText, text_compact (level + 1) v, membersText_compact level rest,
        gap_compact, colonGap_compact, List.nil_append]

theorem itemsText_compact (level : Nat) :
    ∀ items : List Json, compact.itemsText level items = compactItems items
  | [] => rfl
  | v :: rest => by
      simp only [itemsText, compactItems, text_compact (level + 1) v,
        itemsText_compact level rest, gap_compact, List.nil_append]

theorem membersText_compact (level : Nat) :
    ∀ members : Members, compact.membersText level members = compactMembers members
  | [] => rfl
  | (k, v) :: rest => by
      simp only [membersText, compactMembers, text_compact (level + 1) v,
        membersText_compact level rest, gap_compact, colonGap_compact,
        List.nil_append]

end

mutual

theorem text_pretty (level : Nat) : ∀ v : Json, pretty.text level v = v.prettyText level
  | .null | .bool _ | .number _ | .string _ | .array [] | .object [] => by
      simp only [text, prettyText]
  | .array (v :: rest) => by
      simp only [text, prettyText, text_pretty (level + 1) v, itemsText_pretty level rest,
        gap_pretty, List.append_assoc]
  | .object ((k, v) :: rest) => by
      simp only [text, prettyText, text_pretty (level + 1) v, membersText_pretty level rest,
        gap_pretty, colonGap_pretty, List.append_assoc, List.cons_append, List.nil_append]

theorem itemsText_pretty (level : Nat) :
    ∀ items : List Json, pretty.itemsText level items = prettyItems level items
  | [] => rfl
  | v :: rest => by
      simp only [itemsText, prettyItems, text_pretty (level + 1) v, itemsText_pretty level rest,
        gap_pretty, List.append_assoc]

theorem membersText_pretty (level : Nat) :
    ∀ members : Members, pretty.membersText level members = prettyMembers level members
  | [] => rfl
  | (k, v) :: rest => by
      simp only [membersText, prettyMembers, text_pretty (level + 1) v,
        membersText_pretty level rest, gap_pretty, colonGap_pretty, List.append_assoc,
        List.cons_append, List.nil_append]

end

end Layout

end Json

end Retrace
