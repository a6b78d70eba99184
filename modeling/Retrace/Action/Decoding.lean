import Retrace.Action
import Retrace.Decoding.Choice
import Retrace.Decoding.Record

/-!
Decoding of actions. The envelope may have its members in either order, other members are skipped,
and the pair of name and parameters may stand for it; the parameters are always an object.
-/

namespace Retrace.Action

open Decoding

def Name.known : List (String × Name) := Name.all.map fun n => (n.text, n)

/-- An action of the given name whose parameters are still to be set. -/
def blank : Name → Action
  | .waitForElement => .waitForElement "" 0
  | .clickBySelector => .clickBySelector ""
  | .clickByText => .clickByText "" none 0
  | .inputText => .inputText "" ""
  | .selectOption => .selectOption "" ""
  | .sendKeys => .sendKeys ""
  | .openTab => .openTab ""
  | .goToUrl => .goToUrl ""
  | .extractContent => .extractContent "" false
  | .done => .done "" false

/-- How messages call the action. -/
def Name.shape : Name → String
  | .waitForElement => "WaitForElement"
  | .clickBySelector => "ClickElementBySelector"
  | .clickByText => "ClickElementByText"
  | .inputText => "InputTextBySelector"
  | .selectOption => "SelectOptionBySelector"
  | .sendKeys => "SendKeys"
  | .openTab => "OpenTab"
  | .goToUrl => "GoToUrl"
  | .extractContent => "ExtractContent"
  | .done => "Done"

def setSelector (s : String) : Action → Action
  | .waitForElement _ timeout => .waitForElement s timeout
  | .clickBySelector _ => .clickBySelector s
  | .inputText _ text => .inputText s text
  | .selectOption _ value => .selectOption s value
  | a => a

def setTimeout (t : UInt64) : Action → Action
  | .waitForElement s _ => .waitForElement s t
  | a => a

def setText (t : String) : Action → Action
  | .clickByText _ elementType nth => .clickByText t elementType nth
  | .inputText s _ => .inputText s t
  | .done _ success => .done t success
  | a => a

def setElementType (t : Option String) : Action → Action
  | .clickByText text _ nth => .clickByText text t nth
  | a => a

def setNth (n : UInt32) : Action → Action
  | .clickByText text elementType _ => .clickByText text elementType n
  | a => a

def setValue (v : String) : Action → Action
  | .selectOption s _ => .selectOption s v
  | a => a

def setKeys (k : String) : Action → Action
  | .sendKeys _ => .sendKeys k
  | a => a

def setUrl (u : String) : Action → Action
  | .openTab _ => .openTab u
  | .goToUrl _ => .goToUrl u
  | a => a

def setGoal (g : String) : Action → Action
  | .extractContent _ strip => .extractContent g strip
  | a => a

def setStrip (b : Bool) : Action → Action
  | .extractContent g _ => .extractContent g b
  | a => a

def setSuccess (b : Bool) : Action → Action
  | .done t _ => .done t b
  | a => a

def parameterFields : Name → List (RecordField Action)
  | .waitForElement =>
      [.mandatory "selector" text setSelector, .mandatory "timeout" word64 setTimeout]
  | .clickBySelector => [.mandatory "css_selector" text setSelector]
  | .clickByText =>
      [.mandatory "text" text setText,
        .optional "element_type" (Decoding.optional text) setElementType,
        .mandatory "nth" word32 setNth]
  | .inputText => [.mandatory "selector" text setSelector, .mandatory "text" text setText]
  | .selectOption => [.mandatory "css_selector" text setSelector, .mandatory "value" text setValue]
  | .sendKeys => [.mandatory "keys" text setKeys]
  | .openTab => [.mandatory "url" text setUrl]
  | .goToUrl => [.mandatory "url" text setUrl]
  | .extractContent =>
      [.mandatory "goal" text setGoal, .mandatory "should_strip_link_urls" flag setStrip]
  | .done => [.mandatory "text" text setText, .mandatory "success" flag setSuccess]

def parameterRecord (name : Name) : Record Action where
  expected := "struct variant Action::" ++ name.shape
  start := blank name
  fields := parameterFields name

def decodeParameters (name : Name) : Decoder Action := (parameterRecord name).decodeOpened

inductive EnvelopePart where
  | tag
  | parameters
deriving DecidableEq, Repr

def EnvelopePart.key : EnvelopePart → String
  | .tag => "action"
  | .parameters => "action_params"

/-- The next member that belongs to the envelope, and the members after it. -/
def nextPart? :
    Document.Members → Except Fault (Option (EnvelopePart × Document × Document.Members))
  | [] => .ok none
  | (none, _) :: _ => .error .malformed
  | (some key, d) :: rest =>
      if key = EnvelopePart.tag.key then .ok (some (.tag, d, rest))
      else if key = EnvelopePart.parameters.key then .ok (some (.parameters, d, rest))
      else nextPart? rest

/-- Neither part may occur again. -/
def closeEnvelope (a : Action) (members : Document.Members) : Except Fault Action := do
  match ← nextPart? members with
  | none => return a
  | some (part, _) => .error (.duplicateField part.key)

def decodeEnvelope (origin : Origin) (members : Document.Members) : Except Fault Action := do
  match ← nextPart? members with
  | none => .error (.missingField EnvelopePart.tag.key)
  | some (.tag, d, rest) => do
      let name ← choice Name.known origin d
      match ← nextPart? rest with
      | none => .error (.missingField EnvelopePart.parameters.key)
      | some (.tag, _) => .error (.duplicateField EnvelopePart.tag.key)
      | some (.parameters, d, rest) => do
          let a ← decodeParameters name origin d
          closeEnvelope a rest
  | some (.parameters, parameters, rest) => do
      -- Without a name the parameters can only be checked for being JSON at all.
      let _ ← json origin parameters
      match ← nextPart? rest with
      | none => .error (.missingField EnvelopePart.tag.key)
      | some (.parameters, _) => .error (.duplicateField EnvelopePart.parameters.key)
      | some (.tag, d, rest) => do
          let name ← choice Name.known origin d
          let a ← decodeParameters name origin parameters
          closeEnvelope a rest

def expected : String := "adjacently tagged enum Action"

def decodePair (outer origin : Origin) (items : List Document) : Except Fault Action :=
  match items with
  | [] => .error (.wrongLength 0 expected)
  | tag :: rest => do
      let name ← identifier Name.known origin tag
      match rest with
      | [] => .error (.wrongLength 1 expected)
      | parameters :: rest => do
          let a ← decodeParameters name origin parameters
          if rest.isEmpty then return a else .error (outer.overlong items.length)

def decode : Decoder Action := fun origin document =>
  match document with
  | .object members => do decodeEnvelope (← origin.enter) members
  | .array items => do decodePair origin (← origin.enter) items
  | d => mismatch expected d

end Retrace.Action
