/-!
Requests and responses, as far as the collector looks at them.
-/

namespace Retrace.Http

structure Request where
  method : String
  /-- Path and query, or a whole address. -/
  target : String
  contentType : Option String := none
  body : ByteArray := .empty

structure Response where
  status : Nat
  contentType : Option String := none
  body : String := ""
deriving DecidableEq, Repr

namespace Response

def ofStatus (status : Nat) : Response := { status }

def jsonType : String := "application/json"

def json (status : Nat) (body : String) : Response :=
  { status, contentType := some jsonType, body }

def plain (status : Nat) (body : String) : Response :=
  { status, contentType := some "text/plain; charset=utf-8", body }

def withoutBody (response : Response) : Response := { response with body := "" }

end Response

end Retrace.Http
