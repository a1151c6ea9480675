/-
  LoggingOperator.Http.Message — REQUESTS AND REPLIES.

  The platform and the management API of a search cluster are both reached over
  HTTP.  A request has at most a JSON body; a reply has a status and a text.
-/
import LoggingOperator.Json.Printer
import LoggingOperator.Text.Base64

namespace LoggingOperator.Http

/-! ## §1. Requests -/

/-- What a request asks for. -/
inductive Method where
  | get
  | post
  | put
  | delete
deriving DecidableEq, Repr

namespace Method

/-- The word of a method. -/
def word : Method → String
  | .get => "GET"
  | .post => "POST"
  | .put => "PUT"
  | .delete => "DELETE"

end Method

/-- A request as its server sees it. -/
structure Request where
  method : Method
  /-- Path and query. -/
  target : String
  /-- The header with the name and password of the sender. -/
  authorization : Option String := none
  body : Option Json := none
deriving DecidableEq

namespace Request

/-- The type of the body, if there is a body. -/
def contentType (r : Request) : Option String :=
  r.body.map fun _ => "application/json"

end Request

/-- The header for a name and a password. -/
def basicAuthorization (username password : String) : String :=
  let credentials := username ++ ":" ++ password
  "Basic " ++ Text.Base64.encoded (Text.Base64.bytes credentials)

/-! ## §2. Replies -/

/-- What a server answers.  A status has three digits. -/
structure Reply where
  status : UInt16
  body : String := ""
  status_range : 100 ≤ status ∧ status < 1000 := by decide
deriving DecidableEq, Repr

namespace Reply

/-- The reply with this status, if it is one. -/
def ofStatus? (status : UInt16) (body : String) : Option Reply :=
  if h : 100 ≤ status ∧ status < 1000 then some ⟨status, body, h⟩ else none

/-- Did the request succeed? -/
def isSuccess (r : Reply) : Bool :=
  200 ≤ r.status && r.status < 300

/-- Was the request refused, or did the server fail? -/
def isFailure (r : Reply) : Bool :=
  400 ≤ r.status && r.status < 600

end Reply

end LoggingOperator.Http
