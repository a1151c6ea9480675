/-
  LoggingOperator.Declaration.Role — ROLES OF SEARCH NODES AND DERIVED NAMES.

  A search cluster is divided into roles, each with its own workload.  Every
  object that is derived from a declaration has a name made of the
  declaration's name and, where there is one per role, the role.  Other
  manifests refer to these names by hand, so their form is fixed.
-/

namespace LoggingOperator

/-! ## §1. Roles -/

/-- What the nodes of one workload do. -/
inductive Role where
  /-- Elects the leader of the cluster; always declared. -/
  | master
  | data
  | ingestion
  /-- Coordinates requests and does nothing else. -/
  | client
deriving DecidableEq, Repr, Inhabited

namespace Role

/-- The roles a declaration may leave out, in the order they are set up. -/
def optional : List Role := [.data, .ingestion, .client]

/-- Every role, in the order they are set up. -/
def all : List Role := .master :: optional

/-- The word for a role. -/
def word : Role → String
  | .master => "master"
  | .data => "data"
  | .ingestion => "ingestion"
  | .client => "client"

/-- The role that a word stands for. -/
def ofWord? (word : String) : Option Role :=
  all.find? fun role => role.word == word

theorem ofWord?_word (role : Role) : ofWord? role.word = some role := by
  cases role <;> rfl

end Role

/-! ## §2. Names -/

namespace Naming

/-- The workload of a role, and its routable service. -/
def workload (id : String) (role : Role) : String :=
  s!"{id}-{role.word}"

/-- The service that gives each node of a role an address of its own. -/
def headless (id : String) (role : Role) : String :=
  s!"{id}-{role.word}-headless"

/-- The secret with the generated password. -/
def passwordSecret (id : String) : String :=
  s!"{id}-password"

/-- The secret with the certificates. -/
def certificateSecret (id : String) : String :=
  s!"{id}-tls-cert"

/-- The secret with the token of the dashboard. -/
def tokenSecret (id : String) : String :=
  s!"{id}-sa-token"

/-- An object outside namespaces that serves a declaration in a namespace. -/
def clusterScoped (ns id : String) : String :=
  s!"{ns}-{id}"

/-- The nodes of a role, numbered from zero, joined by commas. -/
def nodes (id : String) (role : Role) (replicas : Int32) : String :=
  ",".intercalate ((List.range replicas.toInt.toNat).map fun i => s!"{workload id role}-{i}")

end Naming

end LoggingOperator
