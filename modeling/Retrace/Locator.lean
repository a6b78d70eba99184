import Retrace.Event
import Retrace.Fragment

/-!
Locators: how a replay finds the element of an event again. The candidates are tried in a fixed
order: the element's id, attributes that usually survive a new rendering of the page, attributes
that identify elements of certain tags, and last the visible text.
-/

namespace Retrace

inductive Locator where
  | css (selector : String)
  /-- Elements of the given tag, or of any, that show the text. -/
  | text (text : String) (tag : Option String)
deriving DecidableEq, Repr

namespace Locator

def tagText (tag : Option String) : String := tag.getD "*"

def stableAttributes : List String :=
  ["data-testid", "data-test", "data-automation", "aria-label", "aria-controls", "data-bs-target",
    "name", "title", "placeholder"]

def tagAttributes : List (String × String) :=
  [("img", "alt"), ("img", "src"), ("a", "href"), ("option", "value"), ("input", "value")]

/-- What the candidates are derived from. -/
structure Traits where
  id : Option String
  tag : Option String
  text : Option String
  attributes : List (String × String)

namespace Traits

/-- The value of an attribute, unless it is empty. -/
def attribute? (t : Traits) (name : String) : Option String :=
  (t.attributes.lookup name).filter (· ≠ "")

def attributeLocator? (t : Traits) (name : String) : Option Locator :=
  (t.attribute? name).map fun value =>
    .css (tagText t.tag ++ "[" ++ name ++ "=\"" ++ value ++ "\"]")

def idLocator? (t : Traits) : Option Locator :=
  (t.id.filter (· ≠ "")).map fun id => .css ("#" ++ id)

def stableLocator? (t : Traits) : Option Locator := stableAttributes.findSome? t.attributeLocator?

def tagLocator? (t : Traits) : Option Locator :=
  (tagAttributes.filter fun row => t.tag = some row.1).findSome? fun row =>
    t.attributeLocator? row.2

def textLocator? (t : Traits) : Option Locator := t.text.map fun text => .text text t.tag

def locator? (t : Traits) : Option Locator :=
  t.idLocator?.or (t.stableLocator?.or (t.tagLocator?.or t.textLocator?))

end Traits

end Locator

namespace Target

/-- The markup of the target, empty where there is none. -/
def markup (t : Target) : String := t.target.getD ""

def traits (t : Target) : Locator.Traits :=
  let fragment := Fragment.read t.markup
  { id := t.targetId
    tag := fragment.tag
    text := fragment.text
    attributes := Fragment.attributes t.markup }

def locator? (t : Target) : Option Locator := t.traits.locator?

end Target

end Retrace
