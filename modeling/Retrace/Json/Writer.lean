import Retrace.Json.Basic
import Retrace.Decimal.Written

/-!
JSON text. The compact form has no blanks; the pretty form puts each item and member on a line of
its own, two blanks deeper than its container, and leaves empty containers closed.
-/

namespace Retrace

open Decimal

namespace Json

def hexDigit (n : Nat) : Char := (Nat.toDigits 16 n).headD '0'

/-- Only the quote, the backslash and the characters below the blank are escaped. -/
def escapeChar (c : Char) : List Char :=
  match c with
  | '"' => ['\\', '"']
  | '\\' => ['\\', '\\']
  | '\x08' => ['\\', 'b']
  | '\x0c' => ['\\', 'f']
  | '\n' => ['\\', 'n']
  | '\r' => ['\\', 'r']
  | '\t' => ['\\', 't']
  | c =>
      if c.toNat < 0x20 then ['\\', 'u', '0', '0', hexDigit (c.toNat / 16), hexDigit (c.toNat % 16)]
      else [c]

def escape (s : String) : List Char := s.toList.flatMap escapeChar

def stringText (s : String) : List Char := '"' :: (escape s ++ ['"'])

end Json

def Number.text : Number → List Char
  | .integer i => if i < 0 then '-' :: Nat.toDigits 10 i.natAbs else Nat.toDigits 10 i.natAbs
  | .double d => d.text

namespace Json

mutual

def compactText : Json → List Char
  | .null => ['n', 'u', 'l', 'l']
  | .bool true => ['t', 'r', 'u', 'e']
  | .bool false => ['f', 'a', 'l', 's', 'e']
  | .number n => n.text
  | .string s => stringText s
  | .array [] => ['[', ']']
  | .array (v :: rest) => '[' :: (compactText v ++ compactItems rest)
  | .object [] => ['\x7b', '\x7d']
  | .object ((k, v) :: rest) =>
      '\x7b' :: (stringText k ++ ':' :: (compactText v ++ compactMembers rest))

/-- The items after the first one, with what closes the array. -/
def compactItems : List Json → List Char
  | [] => [']']
  | v :: rest => ',' :: (compactText v ++ compactItems rest)

def compactMembers : List (String × Json) → List Char
  | [] => ['\x7d']
  | (k, v) :: rest => ',' :: (stringText k ++ ':' :: (compactText v ++ compactMembers rest))

end

/-- A new line and the indentation of the given level. -/
def newline (level : Nat) : List Char := '\n' :: List.replicate (2 * level) ' '

mutual

def prettyText (level : Nat) : Json → List Char
  | .array [] => ['[', ']']
  | .array (v :: rest) =>
      '[' :: (newline (level + 1) ++ prettyText (level + 1) v ++ prettyItems level rest)
  | .object [] => ['\x7b', '\x7d']
  | .object ((k, v) :: rest) =>
      '\x7b' :: (newline (level + 1) ++ stringText k ++ ':' :: ' ' ::
        (prettyText (level + 1) v ++ prettyMembers level rest))
  | v => compactText v

def prettyItems (level : Nat) : List Json → List Char
  | [] => newline level ++ [']']
  | v :: rest =>
      ',' :: (newline (level + 1) ++ prettyText (level + 1) v ++ prettyItems level rest)

def prettyMembers (level : Nat) : List (String × Json) → List Char
  | [] => newline level ++ ['\x7d']
  | (k, v) :: rest =>
      ',' :: (newline (level + 1) ++ stringText k ++ ':' :: ' ' ::
        (prettyText (level + 1) v ++ prettyMembers level rest))

end

def compact (v : Json) : String := String.ofList v.compactText

def pretty (v : Json) : String := String.ofList (v.prettyText 0)

/-- A recorded value as the text to type or select: a string is its own text. -/
def plainText : Json → String
  | .string s => s
  | v => v.compact

end Json

end Retrace
