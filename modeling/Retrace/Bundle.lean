import Retrace.Action.Decoding

/-!
Bundles: a compiled task with its plan, as it is handed to an executor.
-/

namespace Retrace

open Decoding

inductive ReplayType where
  | exactReplay
deriving DecidableEq, Repr

def ReplayType.text : ReplayType → String
  | .exactReplay => "exact_replay"

def ReplayType.known : List (String × ReplayType) :=
  [(ReplayType.exactReplay.text, .exactReplay)]

structure Bundle where
  goal : String
  taskId : String
  replayType : ReplayType := .exactReplay
  plan : Plan
deriving DecidableEq, Repr

namespace Bundle

def toJson (b : Bundle) : Json :=
  .object [("ultimate_goal", .string b.goal), ("task_id", .string b.taskId),
    ("type", .string b.replayType.text), ("action_list", b.plan.toJson)]

def pretty (b : Bundle) : String := b.toJson.pretty

def compact (b : Bundle) : String := b.toJson.compact

def record : Record Bundle where
  expected := "struct ReplayBundle"
  start := { goal := "", taskId := "", plan := [] }
  fields := [
    .mandatory "ultimate_goal" text fun v b => { b with goal := v },
    .mandatory "task_id" text fun v b => { b with taskId := v },
    .mandatory "type" (choice ReplayType.known) fun v b => { b with replayType := v },
    .mandatory "action_list" (sequence Action.decode) fun v b => { b with plan := v }]

def decode : Decoder Bundle := record.decode

def ofText (s : String) : Except Fault Bundle := Decoding.ofText decode s

end Bundle

end Retrace
