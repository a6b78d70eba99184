import Retrace.Text.Pieces

/-!
Media types: a type and a subtype with an optional suffix, then parameters, of which only the form
is looked at.
-/

namespace Retrace.Http

open Text

def isTokenChar (c : Char) : Bool :=
  c.isAlphanum || ['!', '#', '$', '%', '&', '\x27', '*', '+', '-', '.', '^', '_', '\x60', '|',
    '~'].contains c

def isPrintable (c : Char) : Bool := decide (' ' ≤ c) && decide (c ≤ '~')

/-- Where a reader of parameters stands. -/
inductive ParameterState where
  | between
  | name
  | valueStart
  | value
  | quoteStart
  | quoted
  | closed
deriving DecidableEq, Repr

namespace ParameterState

/-- A quote closes a quoted value only after something quoted, which may itself be a quote. A
backslash stands for itself, so it cannot keep a quote from closing. -/
def step? (state : ParameterState) (c : Char) : Option ParameterState :=
  match state with
  | .between => if c = ' ' then some .between else if isTokenChar c then some .name else none
  | .name => if c = '=' then some .valueStart else if isTokenChar c then some .name else none
  | .valueStart => if c = '"' then some .quoteStart else if isTokenChar c then some .value else none
  | .value => if c = ';' then some .between else if isTokenChar c then some .value else none
  | .quoteStart => if isPrintable c then some .quoted else none
  | .quoted => if c = '"' then some .closed else if isPrintable c then some .quoted else none
  | .closed => if c = ' ' then some .closed else if c = ';' then some .between else none

def mayEnd : ParameterState → Bool
  | .between | .valueStart | .value | .closed => true
  | _ => false

end ParameterState

def areParameters (text : List Char) : Bool :=
  (text.foldlM ParameterState.step? .between).any ParameterState.mayEnd

structure MediaType where
  type : List Char
  subtype : List Char
  suffix : Option (List Char)
deriving DecidableEq, Repr

namespace MediaType

def ofNames (type subtype : List Char) : MediaType :=
  match cutLast? '+' subtype with
  | some (before, suffix) => ⟨type, before, some suffix⟩
  | none => ⟨type, subtype, none⟩

def read? (text : List Char) : Option MediaType :=
  let type := text.takeWhile isTokenChar
  match type, text.dropWhile isTokenChar with
  | _ :: _, '/' :: rest =>
      let subtype := rest.takeWhile isTokenChar
      match rest.dropWhile isTokenChar with
      | [] => some (ofNames type subtype)
      | ';' :: parameters =>
          if subtype ≠ [] ∧ areParameters parameters then some (ofNames type subtype) else none
      | _ => none
  | _, _ => none

def spells (name : String) (text : List Char) : Bool := text.map Char.toLower == name.toList

/-- The case of letters and the parameters do not matter. -/
def isJson (m : MediaType) : Bool :=
  spells "application" m.type && (spells "json" m.subtype || m.suffix.any (spells "json"))

end MediaType

/-- Whether a content type announces JSON. -/
def announcesJson (contentType : Option String) : Bool :=
  (contentType.bind fun text => MediaType.read? text.toList).any MediaType.isJson

end Retrace.Http
