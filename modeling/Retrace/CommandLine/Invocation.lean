import Retrace.Settings

/-!
What the arguments of a call ask for. They are read from left to right: the first one that asks for
help or the version wins, unless a mistake comes before it.
-/

namespace Retrace.CommandLine

inductive Command where
  | serve (host : Option String) (portNumber : Option Nat) (dataFolder : Option String)
  | compile (dataFolder : String) (outputFolder : Option String)
deriving DecidableEq, Repr

inductive Invocation where
  | run (command : Command)
  | version
  | help
  | mistaken
deriving DecidableEq, Repr

/-- As `portNumber?` for an option, where zero may have a minus sign. -/
def optionPortNumber? (text : String) : Option Nat :=
  match text.toList with
  | '-' :: digits => (ofDecimal? digits).filter (· = 0)
  | _ => portNumber? text

inductive OptionName where
  | host
  | portNumber
  | dataFolder
  | outputFolder
deriving DecidableEq, Repr

namespace OptionName

def text : OptionName → List Char
  | .host => "--host".toList
  | .portNumber => "--port".toList
  | .dataFolder => "--data-dir".toList
  | .outputFolder => "--output-dir".toList

/-- A folder needs a name, and the number must be one that can be listened on. -/
def accepts (name : OptionName) (value : String) : Bool :=
  match name with
  | .host => true
  | .portNumber => (optionPortNumber? value).isSome
  | .dataFolder | .outputFolder => value ≠ ""

end OptionName

abbrev Given := List (OptionName × String)

inductive Options where
  | given (options : Given)
  | help
  | mistaken

/-- A text that starts with a hyphen is no value, but for the hyphen alone. -/
def isValue (text : String) : Bool :=
  match text.toList with
  | '-' :: _ :: _ => false
  | _ => true

/-- A long option and what an equals sign attaches to it. -/
def splitOption (argument : List Char) : List Char × Option String :=
  match argument.dropWhile (· != '=') with
  | _ :: value => (argument.takeWhile (· != '='), some (String.ofList value))
  | [] => (argument, none)

/-- One argument that is an option, with the arguments after it; gives the option and how many of
the others belong to it. -/
def option? (known : List OptionName) (argument : List Char) (others : List String) :
    Option ((OptionName × String) × Nat) :=
  let (text, attached) := splitOption argument
  match known.find? (·.text = text), attached, others with
  | some name, some value, _ => if name.accepts value then some ((name, value), 0) else none
  | some name, none, value :: _ =>
      if isValue value ∧ name.accepts value then some ((name, value), 1) else none
  | _, _, _ => none

/-- The options of a command, each at most once. `skip` arguments have been read already. -/
def readOptions (known : List OptionName) (given : Given) : Nat → List String → Options
  | _, [] => .given given
  | skip + 1, _ :: rest => readOptions known given skip rest
  | 0, argument :: rest =>
      match argument.toList with
      | ['-', '-'] => if rest.isEmpty then .given given else .mistaken
      | '-' :: '-' :: _ =>
          if argument = "--help" then .help
          else
            match option? known argument.toList rest with
            | some (option, taken) =>
                if (given.lookup option.1).isSome then .mistaken
                else readOptions known (given ++ [option]) taken rest
            | none => .mistaken
      | '-' :: 'h' :: _ => .help
      | _ => .mistaken

def serveOptions : List OptionName := [.host, .portNumber, .dataFolder]

def compileOptions : List OptionName := [.dataFolder, .outputFolder]

namespace Invocation

def ofServe : Options → Invocation
  | .help => .help
  | .mistaken => .mistaken
  | .given options =>
      .run (.serve (options.lookup .host) ((options.lookup .portNumber).bind optionPortNumber?)
        (options.lookup .dataFolder))

def ofCompile : Options → Invocation
  | .help => .help
  | .mistaken => .mistaken
  | .given options =>
      match options.lookup .dataFolder with
      | some dataFolder => .run (.compile dataFolder (options.lookup .outputFolder))
      | none => .mistaken

/-- The topics that help can be asked for. -/
def topics : List String := ["serve", "compile", "help"]

def ofHelp : List String → Invocation
  | [] => .help
  | [topic] => if topic ∈ topics then .help else .mistaken
  | _ => .mistaken

def ofArguments : List String → Invocation
  | [] => .mistaken
  | "--version" :: _ => .version
  | "--help" :: _ => .help
  | "help" :: rest => ofHelp rest
  | "serve" :: rest => ofServe (readOptions serveOptions [] 0 rest)
  | "compile" :: rest => ofCompile (readOptions compileOptions [] 0 rest)
  | argument :: _ =>
      match argument.toList with
      | '-' :: 'V' :: _ => .version
      | '-' :: 'h' :: _ => .help
      | _ => .mistaken

end Invocation

end Retrace.CommandLine
