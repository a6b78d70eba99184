import Retrace.Json.Reader
import Retrace.Text.Pieces

/-!
Which endpoint a request is for. The query does not matter, letter case and slashes do.
-/

namespace Retrace.Http

open Text

/-- The path of a target. An address starts with a scheme and a host. -/
def targetPath (target : List Char) : List Char :=
  let isEnd (c : Char) : Bool := c == '?' || c == '#'
  let path :=
    match target with
    | '/' :: _ => target
    | _ =>
        match target.dropWhile (· != ':') with
        | ':' :: '/' :: '/' :: rest => rest.dropWhile fun c => c != '/' && !isEnd c
        | _ => target
  path.takeWhile (!isEnd ·)

/-- Replaces escapes by the bytes they stand for. What only looks like an escape stays as it is. -/
def percentDecode : List UInt8 → List UInt8
  | [] => []
  | [a] => [a]
  | [a, b] => [a, b]
  | a :: b :: c :: rest =>
      if a = 37 then
        match Document.hexValue? (Char.ofUInt8 b), Document.hexValue? (Char.ofUInt8 c) with
        | some high, some low => UInt8.ofNat (high * 16 + low) :: percentDecode rest
        | _, _ => a :: percentDecode (b :: c :: rest)
      else a :: percentDecode (b :: c :: rest)

/-- The text that a piece of a path stands for, if it is text. -/
def decodePiece? (piece : String) : Option String :=
  String.fromUTF8? ⟨(percentDecode piece.toUTF8.toList).toArray⟩

inductive Endpoint where
  | health
  | actionData
  /-- The plan of a task, by the id as it stands in the path. -/
  | exactReplay (piece : String)
deriving DecidableEq, Repr

namespace Endpoint

def ofTarget? (target : String) : Option Endpoint :=
  match (pieces '/' (targetPath target.toList)).map String.ofList with
  | ["", "health"] => some .health
  | ["", "action-data"] => some .actionData
  | ["", "tasks", piece, "exact-replay"] => some (.exactReplay piece)
  | _ => none

/-- A HEAD is answered where a GET is. -/
def allows (endpoint : Endpoint) (method : String) : Bool :=
  match endpoint with
  | .actionData => method == "POST"
  | .health | .exactReplay _ => method == "GET" || method == "HEAD"

end Endpoint

end Retrace.Http
