import Retrace.Environment

/-!
Settings of the program, and what the environment says about them.
-/

namespace Retrace

structure Settings where
  /-- The number that the collector listens on. -/
  portNumber : Nat := 4934
  host : String := "0.0.0.0"
  /-- The folder that events are stored in. -/
  dataFolder : String := "data"
  /-- The folder that bundles are written to. -/
  outputFolder : String := "data_processed/exact_replay"
deriving DecidableEq, Repr

def portNumberLimit : Nat := 65535

/-- The number that ASCII digits stand for. -/
def ofDecimal? (digits : List Char) : Option Nat :=
  if digits ≠ [] ∧ digits.all Char.isDigit then
    some (digits.foldl (fun n c => n * 10 + (c.toNat - '0'.toNat)) 0)
  else none

/-- A number to listen on, with an optional plus sign. -/
def portNumber? (text : String) : Option Nat :=
  let digits :=
    match text.toList with
    | '+' :: rest => rest
    | digits => digits
  (ofDecimal? digits).filter (· ≤ portNumberLimit)

namespace Settings

/-- A variable that is not set, or a number that is none, leaves the setting as it is. -/
def ofEnvironment (env : Environment) : Settings :=
  let settings : Settings := {}
  { portNumber := ((env.get? "PORT").bind portNumber?).getD settings.portNumber
    host := (env.get? "HOST").getD settings.host
    dataFolder := (env.get? "DATA_DIR").getD settings.dataFolder
    outputFolder := (env.get? "OUTPUT_DIR").getD settings.outputFolder }

def listenAddress (settings : Settings) : String :=
  settings.host ++ ":" ++ toString settings.portNumber

end Settings

end Retrace
