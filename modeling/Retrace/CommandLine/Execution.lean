import Retrace.CommandLine.Invocation
import Retrace.Environment.Assignments
import Retrace.Store.Bundles
import Retrace.Store.Loading

/-!
Carrying out a call: what it changes on the disk, what it prints, and the code it exits with.
-/

namespace Retrace.CommandLine

open Files

inductive Outcome where
  | exit (code : UInt8) (output : String) (errors : String)
  /-- The program stays and serves. -/
  | serving (settings : Settings)
deriving DecidableEq, Repr

/-- What ends a compile, with what it was caused by, the nearest cause first. -/
structure Refusal where
  message : String
  causes : List String := []
deriving DecidableEq, Repr

namespace Refusal

def ofStore (error : StoreError) : Refusal := ⟨error.message, error.causes⟩

def ofCompile (folder : String) (error : StreamError) : Refusal :=
  ⟨"cannot compile " ++ folder, [error.message]⟩

/-- A lead before the first line, and blanks of its width before the others. -/
def indent (lead text : String) : String :=
  String.ofList (lead.toList ++ text.toList.flatMap fun c =>
    if c = '\n' then '\n' :: List.replicate lead.length ' ' else [c])

/-- The number of a cause, to the right in five columns. -/
def numberLead (number : Nat) : String :=
  String.ofList ((Nat.toDigits 10 number).leftpad 5 ' ') ++ ": "

/-- Causes are numbered when there are several. -/
def causeLines : List String → List String
  | [cause] => [indent "    " cause]
  | causes => causes.zipIdx.map fun (cause, number) => indent (numberLead number) cause

def text (refusal : Refusal) : String :=
  "Error: " ++ refusal.message ++
    (match refusal.causes with
      | [] => ""
      | causes => "\n\nCaused by:\n" ++ "\n".intercalate (causeLines causes)) ++ "\n"

end Refusal

/-- Compiles the events of a folder and writes the bundle. Nothing is written before the bundle is
known to exist. -/
def bundleFolder (disk : Disk) (dataFolder outputFolder : String) :
    Disk × Except Refusal Path :=
  match disk.folderEvents ⟨dataFolder, []⟩ with
  | .error error => (disk, .error (.ofStore error))
  | .ok loaded =>
      match Bundle.ofLoaded loaded with
      | .error error => (disk, .error (.ofCompile dataFolder error))
      | .ok bundle =>
          match bundle.write ⟨outputFolder, []⟩ disk with
          | (disk, .error error) => (disk, .error (.ofStore error))
          | (disk, .ok path) => (disk, .ok path)

def versionText : String := "wap-replay 0.1.0\n"

def usageText : String :=
  "Usage: wap-replay serve [--host <HOST>] [--port <PORT>] [--data-dir <DATA_DIR>]\n" ++
  "       wap-replay compile --data-dir <DATA_DIR> [--output-dir <OUTPUT_DIR>]\n"

def Command.run (command : Command) (settings : Settings) (disk : Disk) : Disk × Outcome :=
  match command with
  | .serve host portNumber dataFolder =>
      (disk, .serving
        { settings with
          host := host.getD settings.host
          portNumber := portNumber.getD settings.portNumber
          dataFolder := dataFolder.getD settings.dataFolder })
  | .compile dataFolder outputFolder =>
      match bundleFolder disk dataFolder (outputFolder.getD settings.outputFolder) with
      | (disk, .ok _) => (disk, .exit 0 "" "")
      | (disk, .error refusal) => (disk, .exit 1 "" refusal.text)

/-- Carries out a call in the current folder of the disk. -/
def run (arguments : List String) (env : Environment) (disk : Disk) : Disk × Outcome :=
  match Invocation.ofArguments arguments with
  | .version => (disk, .exit 0 versionText "")
  | .help => (disk, .exit 0 usageText "")
  | .mistaken => (disk, .exit 2 "" usageText)
  | .run command => command.run (Settings.ofEnvironment (env.withNearestFile disk)) disk

end Retrace.CommandLine
