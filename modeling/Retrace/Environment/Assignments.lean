import Retrace.Environment
import Retrace.Files.Disk
import Retrace.Text.Alphanumeric
import Retrace.Text.Blank

/-!
Files of assignments `NAME=value`, one on a line unless quotes hold a line end. Single quotes keep
their content, double quotes allow escapes and references to variables, and a hash after a blank
starts a comment. A file counts up to its first mistake, and never changes a variable that is set.
-/

namespace Retrace.Environment

open Files Text

/-- Where a reader stands at the end of a line. -/
inductive LineState where
  | complete
  | escape
  | blank
  | single
  | singleEscape
  | double
  | doubleEscape
deriving DecidableEq, Repr

namespace LineState

/-- The state outside quotes after a character that is neither blank nor starts a comment. -/
def outside (c : Char) : LineState :=
  match c with
  | '\\' => .escape
  | '"' => .double
  | '\x27' => .single
  | _ => .complete

def step (state : LineState) (c : Char) : LineState :=
  match state with
  | .complete => if isBlank c ∧ c ≠ '\n' ∧ c ≠ '\r' then .blank else outside c
  | .blank => outside c
  | .escape => .complete
  | .single => if c = '\\' then .singleEscape else if c = '\x27' then .complete else .single
  | .singleEscape => .single
  | .double => if c = '\\' then .doubleEscape else if c = '"' then .complete else .double
  | .doubleEscape => .double

/-- The line up to its comment, if it has one, and the state at the end of it. -/
def scan (state : LineState) (before : List Char) : List Char → List Char × LineState
  | [] => (before, state)
  | c :: rest =>
      if state = .blank ∧ c = '#' then (before, .complete)
      else scan (state.step c) (before ++ [c]) rest

end LineState

def dropLineEnd (line : List Char) : List Char :=
  match line.reverse with
  | '\n' :: '\r' :: rest => rest.reverse
  | '\n' :: rest => rest.reverse
  | _ => line

/-- The assignments of a file, one text each. `opened` is what quotes have kept open so far. A line
that is no text ends the file, and what is still open then does not count. -/
def logicalLines (opened : List Char) (state : LineState) :
    List (Option String) → List (List Char)
  | [] => []
  | none :: _ => []
  | some line :: rest =>
      if (trimStart (opened ++ line.toList)).head? = some '#' then logicalLines [] .complete rest
      else
        match state.scan opened line.toList with
        | (text, .complete) => dropLineEnd text :: logicalLines [] .complete rest
        | (text, state) => logicalLines text state rest

/-- What the reader of a value has in hand. -/
inductive ValueState where
  | plain
  | escaped
  | single
  /-- A reference to the variable of this name. -/
  | name (name : List Char)
  /-- A reference that a brace will end. -/
  | braced (name : List Char)
  | ended

def unescape? (c : Char) : Option Char :=
  match c with
  | '\\' => some '\\'
  | '\x27' => some '\x27'
  | '"' => some '"'
  | '$' => some '$'
  | ' ' => some ' '
  | 'n' => some '\n'
  | _ => none

def reference (env : Environment) (name : List Char) : List Char :=
  ((env.get? (String.ofList name)).getD "").toList

/-- The value that the rest of an assignment stands for, after `done`. `quoted` says that double
quotes are open; the character that ends a reference is part of the value even if it is a quote. -/
def value? (env : Environment) (quoted : Bool) (state : ValueState) (done : List Char) :
    List Char → Option (List Char)
  | [] =>
      match quoted, state with
      | true, _ | _, .single | _, .braced _ => none
      | false, .name name => some (done ++ reference env name)
      | false, _ => some done
  | c :: rest =>
      match state with
      | .ended =>
          if c = ' ' ∨ c = '\t' then value? env quoted .ended done rest
          else if c = '#' then some done
          else none
      | .escaped =>
          match unescape? c with
          | some c => value? env quoted .plain (done ++ [c]) rest
          | none => none
      | .single =>
          if c = '\x27' then value? env quoted .plain done rest
          else value? env quoted .single (done ++ [c]) rest
      | .name name =>
          if isAlphanumeric c then value? env quoted (.name (name ++ [c])) done rest
          else if c = '\x7b' ∧ name = [] then value? env quoted (.braced []) done rest
          else if c = '$' then value? env quoted (.name []) (done ++ reference env name) rest
          else value? env quoted .plain (done ++ reference env name ++ [c]) rest
      | .braced name =>
          if c = '\x7d' then value? env quoted .plain (done ++ reference env name) rest
          else value? env quoted (.braced (name ++ [c])) done rest
      | .plain =>
          if c = '$' then value? env quoted (.name []) done rest
          else if c = '\\' then value? env quoted .escaped done rest
          else if c = '"' then value? env (!quoted) .plain done rest
          else if quoted then value? env quoted .plain (done ++ [c]) rest
          else if c = '\x27' then value? env quoted .single done rest
          else if c = ' ' ∨ c = '\t' then value? env quoted .ended done rest
          else value? env quoted .plain (done ++ [c]) rest

def isNameStart (c : Char) : Bool := c.isAlpha || c == '_'

def isNameChar (c : Char) : Bool := c.isAlphanum || c == '_' || c == '.'

/-- A name and what follows it and the blanks after it. -/
def name? (text : List Char) : Option (List Char × List Char) :=
  match text with
  | c :: _ =>
      if isNameStart c then some (text.takeWhile isNameChar, trimStart (text.dropWhile isNameChar))
      else none
  | [] => none

/-- The word before a name that is to be handed on to other programs. -/
def exportWord : List Char := ['e', 'x', 'p', 'o', 'r', 't']

/-- The name of an assignment and the text of its value. -/
def sides? (text : List Char) : Option (List Char × List Char) :=
  match name? text with
  | some (name, '=' :: rest) => some (name, rest)
  | some (name, rest) =>
      if name = exportWord then
        match name? rest with
        | some (name, '=' :: rest) => some (name, rest)
        | _ => none
      else none
  | none => none

/-- What an assignment sets. An empty line sets nothing. -/
def assignment? (env : Environment) (line : List Char) : Option (Option (String × String)) :=
  let text := trimStart (trimEnd line)
  if text.head?.all (· = '#') then some none
  else
    match sides? text with
    | none => none
    | some (name, rest) =>
        let rest := trimStart rest
        if rest.head?.all (· = '#') then some (some (String.ofList name, ""))
        else
          match value? env false .plain [] rest with
          | some value => some (some (String.ofList name, String.ofList value))
          | none => none

def assign (env : Environment) : List (List Char) → Environment
  | [] => env
  | line :: rest =>
      match assignment? env line with
      | none => env
      | some none => assign env rest
      | some (some (name, value)) => assign (env.setIfAbsent name value) rest

/-- The lines of a file, line ends included. -/
def physicalLines (line : List UInt8) : List UInt8 → List (List UInt8)
  | [] => if line.isEmpty then [] else [line]
  | b :: rest =>
      if b = 10 then (line ++ [b]) :: physicalLines [] rest else physicalLines (line ++ [b]) rest

def dropMark : List UInt8 → List UInt8
  | 0xEF :: 0xBB :: 0xBF :: rest => rest
  | bytes => bytes

def withFile (env : Environment) (content : ByteArray) : Environment :=
  env.assign (logicalLines [] .complete ((physicalLines [] (dropMark content.toList)).map
    fun line => String.fromUTF8? ⟨line.toArray⟩))

def fileName : String := ".env"

/-- The file of assignments in a folder or in the nearest folder above it. The folder is given by
its names, the last one first. -/
def nearestFile? (tree : Node) : List String → Option ByteArray
  | [] => (tree.at? [fileName]).bind Node.content?
  | name :: above =>
      match tree.at? ((name :: above).reverse ++ [fileName]) with
      | some (.file content) => some content
      | _ => nearestFile? tree above

/-- Adds what the file of assignments sets that applies to the current folder. -/
def withNearestFile (env : Environment) (disk : Disk) : Environment :=
  match nearestFile? disk.tree disk.current.reverse with
  | some content => env.withFile content
  | none => env

end Retrace.Environment
