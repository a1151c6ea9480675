/-
  LoggingOperator.Management.Call — CALLS TO THE MANAGEMENT API.

  A search cluster is managed through an API of its own: its health, service
  tokens, index templates and lifecycle policies.  A call is a value; what it
  is answered with depends on the call (`Call.Answer`).
-/
import LoggingOperator.Json.Record

namespace LoggingOperator.Management

open Json Json.Record

/-! ## §1. Errors -/

/-- What can go wrong with a call. -/
inductive ManagementError where
  /-- No answer came. -/
  | transport (message : String)
  /-- The answer was not a success. -/
  | status (code : UInt16) (body : String)
  /-- The answer could not be read. -/
  | decode (message : String)
deriving DecidableEq, Repr

namespace ManagementError

/-- The text of an error. -/
def message : ManagementError → String
  | .transport m => s!"transport: {m}"
  | .status code body => s!"status {code.toNat}: {body}"
  | .decode m => s!"decode: {m}"

/-- There is no such entry. -/
def isNotFound : ManagementError → Bool
  | .status 404 _ => true
  | _ => false

/-- There is such an entry already; a token is not issued twice under one
    name. -/
def isConflict : ManagementError → Bool
  | .status 409 _ => true
  | _ => false

end ManagementError

/-! ## §2. What is answered -/

/-- What a cluster says about its health. -/
structure HealthReport where
  colour : String
  activeShards : Int64 := 0
deriving DecidableEq

namespace HealthReport

def ofJson? (v : Json) : Option HealthReport := do
  let v ← object? v
  return {
    colour := ← required v "status" string?
    activeShards := ← defaulted v "active_shards" 0 int64? }

end HealthReport

/-- A service token; its value is told only once. -/
structure ServiceToken where
  name : String
  value : String
deriving DecidableEq

namespace ServiceToken

def ofJson? (v : Json) : Option ServiceToken := do
  let v ← object? v
  return {
    name := ← required v "name" string?
    value := ← required v "value" string? }

end ServiceToken

/-! ## §3. Calls -/

/-- Where a cluster's management API is and how to log in. -/
structure Endpoint where
  base : String
  username : Option String := none
  password : Option String := none
deriving DecidableEq

namespace Endpoint

/-- The address of a path: both are joined by exactly one slash. -/
def url (endpoint : Endpoint) (path : String) : String :=
  let base := (endpoint.base.toList.reverse.dropWhile (· == '/')).reverse
  String.ofList (base ++ '/' :: path.toList.dropWhile (· == '/'))

end Endpoint

/-- The two kinds of named entries that a cluster keeps. -/
inductive EntryKind where
  | template
  | policy
deriving DecidableEq, Repr

/-- A service token is named by the account and the service it belongs to and
    by a name of its own. -/
structure TokenId where
  account : String
  service : String
  name : String
deriving DecidableEq

namespace TokenId

/-- The three parts of the name in one text. -/
def text (id : TokenId) : String :=
  s!"{id.account}/{id.service}/{id.name}"

/-- The account that every token of the operator belongs to. -/
def operatorAccount : String := "elastic"

end TokenId

/-- A call to the management API. -/
inductive Call where
  | health
  | createToken (token : TokenId)
  /-- Deleting what is not there is a success. -/
  | deleteToken (token : TokenId)
  | get (kind : EntryKind) (name : String)
  | put (kind : EntryKind) (name : String) (body : Json)
  | delete (kind : EntryKind) (name : String)
deriving DecidableEq

namespace Call

/-- What a call is answered with. -/
abbrev Answer : Call → Type
  | .health => HealthReport
  | .createToken _ => ServiceToken
  | .deleteToken _ => Unit
  | .get _ _ => Option Json
  | .put _ _ _ => Unit
  | .delete _ _ => Unit

/-- The name of the operation. -/
def word : Call → String
  | .health => "cluster_health"
  | .createToken _ => "create_service_token"
  | .deleteToken _ => "delete_service_token"
  | .get .template _ => "get_index_template"
  | .get .policy _ => "get_lifecycle_policy"
  | .put .template _ _ => "put_index_template"
  | .put .policy _ _ => "put_lifecycle_policy"
  | .delete .template _ => "delete_index_template"
  | .delete .policy _ => "delete_lifecycle_policy"

/-- What the call is about. -/
def target : Call → String
  | .health => ""
  | .createToken token | .deleteToken token => token.text
  | .get _ name | .put _ name _ | .delete _ name => name

end Call

/-! ## §4. Paths -/

/-- Where an entry is kept. -/
def entryPath (kind : EntryKind) (name : String) : String :=
  match kind with
  | .template => s!"/_template/{name}"
  | .policy => s!"/_ilm/policy/{name}"

/-- Where a token is kept. -/
def tokenPath (token : TokenId) : String :=
  s!"/_security/service/{token.account}/{token.service}/credential/token/{token.name}"

/-- The entry in the answer to a `get`, which wraps it under its name. -/
def unwrap? (response : Json) (name : String) : Option Json :=
  response.get? name

end LoggingOperator.Management
