import Retrace.Json.Writer

/-!
Actions, the primitive steps of a replay, and their JSON form: an envelope with the name of the
action and its parameters.
-/

namespace Retrace

inductive Action where
  | waitForElement (selector : String) (timeout : UInt64)
  | clickBySelector (selector : String)
  /-- Clicks the `nth` element that shows the text, of the given type or of any. -/
  | clickByText (text : String) (elementType : Option String) (nth : UInt32)
  | inputText (selector : String) (text : String)
  | selectOption (selector : String) (value : String)
  | sendKeys (keys : String)
  | openTab (url : String)
  | goToUrl (url : String)
  | extractContent (goal : String) (stripLinkUrls : Bool)
  | done (text : String) (success : Bool)
deriving DecidableEq, Repr

/-- Actions in the order in which they are replayed. -/
abbrev Plan := List Action

namespace Action

/-- The vocabulary of an executor. -/
inductive Name where
  | waitForElement
  | clickBySelector
  | clickByText
  | inputText
  | selectOption
  | sendKeys
  | openTab
  | goToUrl
  | extractContent
  | done
deriving DecidableEq, Repr

namespace Name

def text : Name → String
  | .waitForElement => "wait_for_element"
  | .clickBySelector => "click_element_by_selector"
  | .clickByText => "click_element_by_text"
  | .inputText => "input_text_by_selector"
  | .selectOption => "select_option_by_selector"
  | .sendKeys => "send_keys"
  | .openTab => "open_tab"
  | .goToUrl => "go_to_url"
  | .extractContent => "extract_content"
  | .done => "done"

def all : List Name :=
  [.waitForElement, .clickBySelector, .clickByText, .inputText, .selectOption, .sendKeys, .openTab,
    .goToUrl, .extractContent, .done]

theorem mem_all (name : Name) : name ∈ all := by
  cases name <;> decide

end Name

def name : Action → Name
  | .waitForElement .. => .waitForElement
  | .clickBySelector .. => .clickBySelector
  | .clickByText .. => .clickByText
  | .inputText .. => .inputText
  | .selectOption .. => .selectOption
  | .sendKeys .. => .sendKeys
  | .openTab .. => .openTab
  | .goToUrl .. => .goToUrl
  | .extractContent .. => .extractContent
  | .done .. => .done

/-- Milliseconds to wait for an element before it is touched. -/
def elementTimeout : UInt64 := 5000

/-- Milliseconds to wait for the page after a step through its history. -/
def navigationTimeout : UInt64 := 8000

def waitFor (selector : String) : Action := .waitForElement selector elementTimeout

def clickFirstByText (text : String) (elementType : Option String) : Action :=
  .clickByText text elementType 0

def extract (goal : String) : Action := .extractContent goal false

/-- The action that ends a replay. -/
def finished : Action := .done "task executed successfully" true

def naturalJson (n : Nat) : Json := .number (.integer n)

def parameters : Action → Json.Members
  | .waitForElement selector timeout =>
      [("selector", .string selector), ("timeout", naturalJson timeout.toNat)]
  | .clickBySelector selector => [("css_selector", .string selector)]
  | .clickByText text elementType nth =>
      [("text", .string text), ("element_type", (elementType.map Json.string).getD .null),
        ("nth", naturalJson nth.toNat)]
  | .inputText selector text => [("selector", .string selector), ("text", .string text)]
  | .selectOption selector value => [("css_selector", .string selector), ("value", .string value)]
  | .sendKeys keys => [("keys", .string keys)]
  | .openTab url => [("url", .string url)]
  | .goToUrl url => [("url", .string url)]
  | .extractContent goal strip =>
      [("goal", .string goal), ("should_strip_link_urls", .bool strip)]
  | .done text success => [("text", .string text), ("success", .bool success)]

def toJson (a : Action) : Json :=
  .object [("action", .string a.name.text), ("action_params", .object a.parameters)]

end Action

def Plan.toJson (plan : Plan) : Json := .array (plan.map Action.toJson)

end Retrace
