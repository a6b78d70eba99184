import Retrace.Http.Message
import Retrace.Store.Basic
import Retrace.Stream

/-!
What went wrong with a request, and the response that says so.
-/

namespace Retrace.Http

inductive Problem where
  | invalidRequest (detail : String)
  | taskNotFound (id : String)
  | compile (error : StreamError)
  | store (error : StoreError)
  | internal (detail : String)
deriving DecidableEq, Repr

namespace Problem

def status : Problem → Nat
  | .invalidRequest _ => 400
  | .store (.invalidTaskId _) => 400
  | .taskNotFound _ => 404
  | .compile _ => 422
  | .store _ => 500
  | .internal _ => 500

def title : Problem → String
  | .invalidRequest _ => "Bad Request"
  | .store (.invalidTaskId _) => "Bad Request"
  | .taskNotFound _ => "Not Found"
  | .compile _ => "Compile Error"
  | .store _ => "Storage Error"
  | .internal _ => "Internal Error"

def detail : Problem → String
  | .invalidRequest detail => "Invalid request: " ++ detail
  | .taskNotFound id => "Task not found: " ++ id
  | .compile error => "Compile error: " ++ error.message
  | .store error => "Storage error: " ++ error.message
  | .internal detail => "Internal error: " ++ detail

def toJson (problem : Problem) : Json :=
  .object [("error", .string problem.title), ("detail", .string problem.detail)]

def response (problem : Problem) : Response := .json problem.status problem.toJson.compact

end Problem

end Retrace.Http
