/-
  LoggingOperator.Store.Remote — AN OBJECT STORE BEHIND THE PLATFORM'S API.

  Every call to the object store is one request.  Calls that cannot become a
  request are refused before anything is sent: an object needs a field for its
  name, and a namespace unless its kind lives in none.

  Main definitions:
    * `StoreCall.request` — the request for a call;
    * `StoreCall.read`    — the answer that a reply stands for;
    * `StoreCall.exchange` — both together.
-/
import LoggingOperator.Http.Exchange
import LoggingOperator.Http.Target
import LoggingOperator.Kube.Answer
import LoggingOperator.Kube.Envelope
import LoggingOperator.Kube.Path
import LoggingOperator.Store.Call

namespace LoggingOperator

open Http (Exchange Reply Request)

namespace StoreError

/-- The error for a failed request about an object. -/
def ofFailure (kind : Kind) (name : String) : Kube.Failure → StoreError
  | .refused r =>
    if r.code = 404 then .notFound kind name
    else if r.code = 409 then
      if r.reason = "AlreadyExists" then .alreadyExists kind name else .conflict r.message
    else .api r.code r.message
  | f => .transport f.message

end StoreError

namespace StoreCall

/-! ## §1. The request for a call -/

/-- The namespace under which a call is sent. -/
def scope (call : StoreCall) : Except StoreError (Option String) :=
  match call.kind.scope call.ns? with
  | some ns => .ok ns
  | none => .error (.invalid s!"namespace required for namespaced kind {call.kind.name}")

/-- An object in its envelope. -/
def sealed (object : Json) : Except StoreError Json :=
  match Envelope.open? object with
  | some object => .ok object
  | none => .error (.encode "the metadata cannot be read")

/-- A request, unless its path cannot be sent. -/
def aimed (method : Http.Method) (path : String) (body : Option Json := none) :
    Except StoreError Request :=
  match Request.aimed? method path body with
  | some request => .ok request
  | none => .error (.transport "the path cannot be sent")

/-- The request for a call. -/
def request (call : StoreCall) : Except StoreError Request := do
  let name ← call.name
  let ns ← call.scope
  let path := call.kind.resource.object ns name
  match call with
  | .get .. => aimed .get path
  | .create kind object =>
    let object ← sealed object
    aimed .post (kind.resource.collection ns ++ "?") object
  | .update _ object =>
    let object ← sealed object
    aimed .put (path ++ "?") object
  | .replaceStatus _ object => aimed .put (path ++ "/status?") object

/-! ## §2. The answer to a call -/

/-- The answer that a reply stands for. -/
def read (call : StoreCall) (reply : Option Reply) : Except StoreError Json := do
  let name ← call.name
  match Kube.answer Envelope.ofDocument? reply with
  | .ok object => .ok object
  | .error f => .error (.ofFailure call.kind name f)

/-- A call as an exchange. -/
def exchange (call : StoreCall) : Exchange (Except StoreError Json) :=
  match call.request with
  | .error e => .done (.error e)
  | .ok request => .send request fun reply => .done (call.read reply)

end StoreCall

end LoggingOperator
