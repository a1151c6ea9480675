/-
  LoggingOperator.Declaration.Security — CREDENTIALS AND TRANSPORT SECURITY.

  How a search cluster and its clients are secured, and where a client finds
  the cluster.
-/
import LoggingOperator.Declaration.Role
import LoggingOperator.Json.Record

namespace LoggingOperator

open Json Json.Record

/-! ## §1. Security -/

/-- A service token that is issued for the dashboard. -/
structure ServiceIntegration where
  service : String := "kibana"
  tokenName : String := "token-sa"
deriving DecidableEq

namespace ServiceIntegration

def toJson (i : ServiceIntegration) : Json :=
  .ofFields
    (always "service" (.string i.service)
      ++ always "tokenName" (.string i.tokenName))

def ofJson? (v : Json) : Option ServiceIntegration := do
  let v ← record? ["service", "tokenName"] 0 v
  let default : ServiceIntegration := {}
  return {
    service := ← defaulted v "service" default.service string?
    tokenName := ← defaulted v "tokenName" default.tokenName string? }

end ServiceIntegration

/-- Security of a search cluster and its clients. -/
structure Security where
  /-- A secret of the user's that holds the password under `password`. -/
  existingSecret : Option String := none
  tls : Bool := false
  generatePassword : Bool := false
  /-- The token to issue once the cluster is healthy. -/
  integration : Option ServiceIntegration := none
deriving DecidableEq

namespace Security

def toJson (s : Security) : Json :=
  .ofFields
    (ifSome "existingSecret" .string s.existingSecret
      ++ always "tlsEnabled" (.bool s.tls)
      ++ always "autoGeneratePassword" (.bool s.generatePassword)
      ++ ifSome "kibanaIntegration" ServiceIntegration.toJson s.integration)

def ofJson? (v : Json) : Option Security := do
  let v ← record? ["existingSecret", "tlsEnabled", "autoGeneratePassword", "kibanaIntegration"] 0 v
  return {
    existingSecret := ← optional v "existingSecret" string?
    tls := ← defaulted v "tlsEnabled" false bool?
    generatePassword := ← defaulted v "autoGeneratePassword" false bool?
    integration := ← optional v "kibanaIntegration" ServiceIntegration.ofJson? }

/-- Is there a password at all? -/
def hasPassword (s : Security) : Bool :=
  s.generatePassword || s.existingSecret.isSome

/-- Is the password the operator's to generate? -/
def needsPassword (s : Security) : Bool :=
  s.generatePassword && s.existingSecret.isNone

/-- The secret that holds the password of the cluster `id`. -/
def passwordSource (s : Security) (id : String) : String :=
  s.existingSecret.getD (Naming.passwordSecret id)

end Security

/-! ## §2. Where a client finds its cluster -/

/-- The cluster that a dashboard or a shipper talks to. -/
structure ClusterReference where
  host : String
  clusterName : String := ""
  version : String := ""
deriving DecidableEq

namespace ClusterReference

def toJson (r : ClusterReference) : Json :=
  .ofFields
    (always "host" (.string r.host)
      ++ always "clusterName" (.string r.clusterName)
      ++ always "esVersion" (.string r.version))

def ofJson? (v : Json) : Option ClusterReference := do
  let v ← record? ["host", "clusterName", "esVersion"] 1 v
  return {
    host := ← required v "host" string?
    clusterName := ← defaulted v "clusterName" "" string?
    version := ← defaulted v "esVersion" "" string? }

end ClusterReference

/-- The management API that an index declaration talks to. -/
structure ManagementAddress where
  host : String
  username : Option String := none
  password : Option String := none
deriving DecidableEq

namespace ManagementAddress

def toJson (a : ManagementAddress) : Json :=
  .ofFields
    (always "host" (.string a.host)
      ++ ifSome "username" .string a.username
      ++ ifSome "password" .string a.password)

def ofJson? (v : Json) : Option ManagementAddress := do
  let v ← record? ["host", "username", "password"] 1 v
  return {
    host := ← required v "host" string?
    username := ← optional v "username" string?
    password := ← optional v "password" string? }

end ManagementAddress

end LoggingOperator
