import Retrace.Http.Endpoint
import Retrace.Http.MediaType
import Retrace.Http.Problem
import Retrace.Store.Loading
import Retrace.Store.Saving
import Retrace.Text.Utf8

/-!
The collector that a recorder posts its events to. It stores what is posted, and gives the plan of a
task from what has been stored for it.
-/

namespace Retrace.Http

open Files

structure Collector where
  store : Store
  disk : Disk

/-- Bodies take at most this many bytes. -/
def bodyLimit : Nat := 2 * 1024 * 1024

/-- The first value of a body; what follows it does not matter. -/
def firstJson? (body : ByteArray) : Option Json :=
  match Document.readFirst (Text.leading body) with
  | some (document, _) => (Decoding.json (.text Decoding.nestingLimit) document).toOption
  | none => none

/-- The event in a request to store one. -/
def postedEvent (request : Request) : Except Problem Json :=
  if ¬ announcesJson request.contentType then
    .error (.invalidRequest
      "Request must be JSON: Expected request with `Content-Type: application/json`")
  else if bodyLimit < request.body.size then
    .error (.invalidRequest
      "Request must be JSON: Failed to buffer the request body: length limit exceeded")
  else
    match firstJson? request.body with
    | none =>
        .error (.invalidRequest "Request must be JSON: Failed to parse the request body as JSON")
    | some (.object members) => .ok (.object members)
    | some _ => .error (.invalidRequest "Event must be a JSON object")

def healthResponse (now : Moment) : Response :=
  .json 200 (Json.object [("status", .string "healthy"),
    ("timestamp", .string now.offsetText)]).compact

def savedResponse (path : Path) : Response :=
  .json 200 (Json.object [("status", .string "success"),
    ("message", .string ("Event received and saved as " ++ path.text))]).compact

namespace Collector

def receive (collector : Collector) (moment : Moment) (request : Request) :
    Collector × Response :=
  match postedEvent request with
  | .error problem => (collector, problem.response)
  | .ok event =>
      match collector.store.save moment event collector.disk with
      | (store, disk, .ok path) => (⟨store, disk⟩, savedResponse path)
      | (store, disk, .error error) => (⟨store, disk⟩, (Problem.store error).response)

/-- The plan of a task from the events stored so far. -/
def replay (collector : Collector) (id : String) : Except Problem Bundle :=
  match collector.store.events collector.disk id with
  | .error error => .error (.store error)
  | .ok [] => .error (.taskNotFound id)
  | .ok loaded =>
      match Bundle.ofLoaded loaded with
      | .error error => .error (.compile error)
      | .ok bundle => .ok bundle

def replayResponse (collector : Collector) (piece : String) : Response :=
  match decodePiece? piece with
  | none => .plain 400 "Invalid URL: Invalid UTF-8 in `task_id`"
  | some id =>
      match collector.replay id with
      | .error problem => problem.response
      | .ok bundle => .json 200 bundle.compact

def dispatch (collector : Collector) (clock : Clock) (request : Request) :
    Endpoint → Collector × Response
  | .health => (collector, healthResponse clock.universal)
  | .actionData => collector.receive clock.wall request
  | .exactReplay piece => (collector, collector.replayResponse piece)

/-- Answers a request. Every origin may ask, so OPTIONS is answered for every target. -/
def handle (collector : Collector) (clock : Clock) (request : Request) : Collector × Response :=
  if request.method = "OPTIONS" then (collector, .ofStatus 200)
  else
    match Endpoint.ofTarget? request.target with
    | none => (collector, .ofStatus 404)
    | some endpoint =>
        if endpoint.allows request.method then
          let (collector, response) := collector.dispatch clock request endpoint
          (collector, if request.method = "HEAD" then response.withoutBody else response)
        else (collector, .ofStatus 405)

end Collector

end Retrace.Http
