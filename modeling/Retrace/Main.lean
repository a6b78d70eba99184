import Retrace.CommandLine.Execution
import Retrace.CommandLine.Snapshot
import Retrace.Decoding.Basic
import Retrace.Json.Writer

/-!
The program. Its files and its environment come as one line of JSON on standard input, an object
with the members `files` and `env`. After a run that writes a bundle, standard output holds the
files as they are then.
-/

namespace Retrace.CommandLine

def filesOf (input : Json) : Files.Node :=
  ((input.get? "files").bind Files.Node.ofJson?).getD (.folder [])

def environmentOf (input : Json) : Environment :=
  match input.get? "env" with
  | some (.object members) =>
      members.filterMap fun (name, value) => value.asString?.map fun text => (name, text)
  | _ => []

end Retrace.CommandLine

open Retrace CommandLine

def main (arguments : List String) : IO UInt32 := do
  let line ← (← IO.getStdin).getLine
  let input := (Json.ofText line).toOption.getD .null
  let (disk, outcome) := run arguments (environmentOf input) { tree := filesOf input }
  match outcome with
  | .serving settings =>
      IO.eprintln ("no network to serve " ++ settings.listenAddress)
      return 1
  | .exit code output errors =>
      IO.print output
      IO.eprint errors
      if code = 0 ∧ output = "" then IO.println disk.tree.toJson.compact
      return code.toUInt32
