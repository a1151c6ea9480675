/-
  LoggingOperator.Management.Remote — A SEARCH CLUSTER BEHIND ITS HTTP API.

  Every call to the management API is one request.  A status from 200 to 299 is
  a success.  An entry that is not there is no error: reading it answers that
  there is none, and deleting it has nothing left to do.

  Main definitions:
    * `request?`  — the request for a call;
    * `read`      — the answer that a reply stands for;
    * `exchange`  — both together.
-/
import LoggingOperator.Http.Exchange
import LoggingOperator.Http.Url
import LoggingOperator.Json.Reader
import LoggingOperator.Management.Call

namespace LoggingOperator.Management

open Http (Exchange Reply Request Url)
open Json Json.Record

/-! ## §1. The request for a call -/

namespace Call

/-- What the request asks for. -/
def method : Call → Http.Method
  | .health | .get .. => .get
  | .createToken _ => .post
  | .put .. => .put
  | .deleteToken _ | .delete .. => .delete

/-- Where the request goes. -/
def path : Call → String
  | .health => "/_cluster/health"
  | .createToken token | .deleteToken token => tokenPath token
  | .get kind name | .put kind name _ | .delete kind name => entryPath kind name

/-- What the request carries. -/
def body? : Call → Option Json
  | .put _ _ body => some body
  | _ => none

end Call

/-- How a request says who sends it.  A name without a password is sent with an
    empty one. -/
def Endpoint.authorization (endpoint : Endpoint) : Option String :=
  endpoint.username.map fun username =>
    Http.basicAuthorization username (endpoint.password.getD "")

/-- The request for a call, if the address of the cluster is one.  A name in the address comes
    before that of the endpoint: of two headers for it the first one stands here. -/
def request? (endpoint : Endpoint) (call : Call) : Option Request :=
  (Url.ofText? (endpoint.url call.path)).map fun url => {
    method := call.method
    target := url.target
    authorization := url.authorization <|> endpoint.authorization
    body := call.body? }

/-! ## §2. The answer to a call -/

/-- The text of a successful reply. -/
def success : Option Reply → Except ManagementError String
  | none => .error (.transport "no reply")
  | some reply =>
    if reply.isSuccess then .ok reply.body else .error (.status reply.status reply.body)

/-- What is read from the document of a successful reply. -/
def document {α : Type} (layout : Layout) (read : Json → Option α) (reply : Option Reply) :
    Except ManagementError α := do
  match (Document.ofText? (← success reply)).bind (Document.readAs? layout read) with
  | some a => .ok a
  | none => .error (.decode "error decoding response body")

/-- An answer for what is not there. -/
def orAbsent {α : Type} (absent : α) (answer : Except ManagementError α) :
    Except ManagementError α :=
  match answer with
  | .error e => if e.isNotFound then .ok absent else .error e
  | answer => answer

def healthLayout : Layout :=
  .strict [("status", .whole), ("active_shards", .whole)]

def tokenLayout : Layout :=
  .strict [("token", .strict [("name", .whole), ("value", .whole)])]

/-- The token in the answer to its creation. -/
def issuedToken? (v : Json) : Option ServiceToken := do
  required (← object? v) "token" ServiceToken.ofJson?

/-- The answer that a reply stands for. -/
def read (reply : Option Reply) : (call : Call) → Except ManagementError call.Answer
  | .health => document healthLayout HealthReport.ofJson? reply
  | .createToken _ => document tokenLayout issuedToken? reply
  | .get _ name => orAbsent none ((document .whole some reply).map fun v => unwrap? v name)
  | .put _ _ _ => (success reply).map fun _ => ()
  | .deleteToken _ | .delete _ _ => orAbsent () ((success reply).map fun _ => ())

/-- A call as an exchange. -/
def exchange (endpoint : Endpoint) (call : Call) :
    Exchange (Except ManagementError call.Answer) :=
  match request? endpoint call with
  | some request => .send request fun reply => .done (read reply call)
  | none => .done (.error (.transport "the address of the cluster is not one"))

end LoggingOperator.Management
