/-
  LoggingOperator.Management.Cluster — A SEARCH CLUSTER HELD IN MEMORY.

  The simplest cluster that answers every call of the management API.  Its
  health and the tokens that it issues are given from outside; templates and
  policies are kept as they were put; a token name is issued once until it is
  deleted.  Every call is recorded.
-/
import LoggingOperator.Management.Call

namespace LoggingOperator.Management

/-- A recorded call: the operation, the cluster it went to and what it was
    about. -/
structure CallRecord where
  word : String
  base : String
  target : String
deriving DecidableEq, Repr

/-- A cluster. -/
structure Cluster where
  health : Except ManagementError HealthReport := .error (.transport "connection refused")
  /-- The value of the next token. -/
  token : Except ManagementError String := .ok "mock-token"
  /-- The tokens that are issued. -/
  tokens : List String := []
  templates : List (String × Json) := []
  policies : List (String × Json) := []
  calls : List CallRecord := []

namespace Cluster

/-! ## §1. Contents -/

/-- The entries of a kind. -/
def entries (c : Cluster) : EntryKind → List (String × Json)
  | .template => c.templates
  | .policy => c.policies

/-- Change the entries of a kind. -/
def mapEntries (c : Cluster) (kind : EntryKind)
    (change : List (String × Json) → List (String × Json)) : Cluster :=
  match kind with
  | .template => { c with templates := change c.templates }
  | .policy => { c with policies := change c.policies }

/-- The body of an entry. -/
def body? (c : Cluster) (kind : EntryKind) (name : String) : Option Json :=
  Keyed.get? name (c.entries kind)

/-- Keep an entry. -/
def put (c : Cluster) (kind : EntryKind) (name : String) (body : Json) : Cluster :=
  c.mapEntries kind (Keyed.insert name body)

/-- Is the token issued? -/
def hasToken (c : Cluster) (token : TokenId) : Bool :=
  c.tokens.contains token.text

/-- Count a token as issued. -/
def addToken (c : Cluster) (token : TokenId) : Cluster :=
  if c.hasToken token then c else { c with tokens := token.text :: c.tokens }

/-- Count a token as not issued. -/
def removeToken (c : Cluster) (token : TokenId) : Cluster :=
  { c with tokens := c.tokens.filter fun t => !decide (t = token.text) }

/-- Record a call. -/
def record (c : Cluster) (endpoint : Endpoint) (call : Call) : Cluster :=
  { c with calls := c.calls ++ [⟨call.word, endpoint.base, call.target⟩] }

/-! ## §2. Answering -/

/-- Issue a token; a name that is taken is answered by a conflict. -/
def issue (c : Cluster) (token : TokenId) : Except ManagementError ServiceToken × Cluster :=
  match c.token with
  | .error e => (.error e, c)
  | .ok value =>
    if c.hasToken token then (.error (.status 409 "version_conflict_engine_exception"), c)
    else (.ok ⟨token.name, value⟩, c.addToken token)

/-- What a call does to the contents, and its answer. -/
def act (c : Cluster) : (call : Call) → Except ManagementError call.Answer × Cluster
  | .health => (c.health, c)
  | .createToken token => c.issue token
  | .deleteToken token => (.ok (), c.removeToken token)
  | .get kind name => (.ok (c.body? kind name), c)
  | .put kind name body => (.ok (), c.put kind name body)
  | .delete kind name => (.ok (), c.mapEntries kind (Keyed.erase name))

/-- Answer a call. -/
def answer (c : Cluster) (endpoint : Endpoint) (call : Call) :
    Except ManagementError call.Answer × Cluster :=
  (c.record endpoint call).act call

end Cluster

end LoggingOperator.Management
