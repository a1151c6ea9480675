/-
  LoggingOperator.Declaration.Elasticsearch — A DECLARED SEARCH CLUSTER.

  A search cluster is declared by its name and version, its security, and the
  size of each of its roles.  Only the master role is always there.
-/
import LoggingOperator.Declaration.Basic
import LoggingOperator.Declaration.Health
import LoggingOperator.Declaration.Placement
import LoggingOperator.Declaration.Security

namespace LoggingOperator

open Json Json.Record

/-! ## §1. The nodes of a role -/

/-- Size and settings of the nodes of one role. -/
structure NodeGroup where
  replicas : Int32 := 1
  placement : Option Placement := none
  /-- A config map whose entries become environment variables. -/
  customConfig : Option String := none
  storage : Option Storage := none
  heapMax : Option String := none
  heapMin : Option String := none
deriving DecidableEq

namespace NodeGroup

def toJson (g : NodeGroup) : Json :=
  .ofFields
    (always "replicas" (int32 g.replicas)
      ++ ifSome "kubernetesConfig" Placement.toJson g.placement
      ++ ifSome "customConfig" .string g.customConfig
      ++ ifSome "storage" Storage.toJson g.storage
      ++ ifSome "jvmMaxMemory" .string g.heapMax
      ++ ifSome "jvmMinMemory" .string g.heapMin)

def ofJson? (v : Json) : Option NodeGroup := do
  let v ← record? ["replicas", "kubernetesConfig", "customConfig", "storage", "jvmMaxMemory",
    "jvmMinMemory"] 0 v
  let default : NodeGroup := {}
  return {
    replicas := ← defaulted v "replicas" default.replicas int32?
    placement := ← optional v "kubernetesConfig" Placement.ofJson?
    customConfig := ← optional v "customConfig" string?
    storage := ← optional v "storage" Storage.ofJson?
    heapMax := ← optional v "jvmMaxMemory" string?
    heapMin := ← optional v "jvmMinMemory" string? }

end NodeGroup

/-! ## §2. Spec and status -/

/-- What a search cluster should be. -/
structure ElasticsearchSpec where
  clusterName : String
  version : String
  security : Option Security := none
  master : NodeGroup := {}
  data : Option NodeGroup := none
  ingestion : Option NodeGroup := none
  client : Option NodeGroup := none
  plugins : List String := []
deriving DecidableEq

namespace ElasticsearchSpec

def toJson (s : ElasticsearchSpec) : Json :=
  .ofFields
    (always "esClusterName" (.string s.clusterName)
      ++ always "esVersion" (.string s.version)
      ++ ifSome "esSecurity" Security.toJson s.security
      ++ always "esMaster" s.master.toJson
      ++ ifSome "esData" NodeGroup.toJson s.data
      ++ ifSome "esIngestion" NodeGroup.toJson s.ingestion
      ++ ifSome "esClient" NodeGroup.toJson s.client
      ++ unlessEmpty "esPlugins" .string s.plugins)

def ofJson? (v : Json) : Option ElasticsearchSpec := do
  let v ← record? ["esClusterName", "esVersion", "esSecurity", "esMaster", "esData",
    "esIngestion", "esClient", "esPlugins"] 2 v
  return {
    clusterName := ← required v "esClusterName" string?
    version := ← required v "esVersion" string?
    security := ← optional v "esSecurity" Security.ofJson?
    master := ← defaulted v "esMaster" {} NodeGroup.ofJson?
    data := ← optional v "esData" NodeGroup.ofJson?
    ingestion := ← optional v "esIngestion" NodeGroup.ofJson?
    client := ← optional v "esClient" NodeGroup.ofJson?
    plugins := ← defaulted v "esPlugins" [] textList }

/-- The nodes of a role, if the role is declared. -/
def nodes? (s : ElasticsearchSpec) : Role → Option NodeGroup
  | .master => some s.master
  | .data => s.data
  | .ingestion => s.ingestion
  | .client => s.client

/-- The declared roles, in the order they are set up. -/
def roles (s : ElasticsearchSpec) : List Role :=
  Role.all.filter fun role => (s.nodes? role).isSome

/-- Is traffic encrypted? -/
def tls (s : ElasticsearchSpec) : Bool :=
  match s.security with
  | some security => security.tls
  | none => false

/-- The scheme of the cluster's addresses. -/
def scheme (s : ElasticsearchSpec) : String :=
  if s.tls then "https" else "http"

end ElasticsearchSpec

/-- What is known of a search cluster. -/
structure ElasticsearchStatus where
  version : Option String := none
  health : Health := .unknown
  activeShards : Option Int32 := none
  master : Option Int32 := none
  data : Option Int32 := none
  ingestion : Option Int32 := none
  client : Option Int32 := none
deriving DecidableEq

namespace ElasticsearchStatus

def toJson (s : ElasticsearchStatus) : Json :=
  .ofFields
    (ifSome "esVersion" .string s.version
      ++ always "esClusterState" s.health.toJson
      ++ ifSome "activeShards" int32 s.activeShards
      ++ ifSome "esMaster" int32 s.master
      ++ ifSome "esData" int32 s.data
      ++ ifSome "esIngestion" int32 s.ingestion
      ++ ifSome "esClient" int32 s.client)

def ofJson? (v : Json) : Option ElasticsearchStatus := do
  let v ← record? ["esVersion", "esClusterState", "activeShards", "esMaster", "esData",
    "esIngestion", "esClient"] 0 v
  return {
    version := ← optional v "esVersion" string?
    health := ← defaulted v "esClusterState" .unknown Health.ofJson?
    activeShards := ← optional v "activeShards" int32?
    master := ← optional v "esMaster" int32?
    data := ← optional v "esData" int32?
    ingestion := ← optional v "esIngestion" int32?
    client := ← optional v "esClient" int32? }

/-- Record how many nodes a role has. -/
def withCount (s : ElasticsearchStatus) (role : Role) (count : Int32) : ElasticsearchStatus :=
  match role with
  | .master => { s with master := some count }
  | .data => { s with data := some count }
  | .ingestion => { s with ingestion := some count }
  | .client => { s with client := some count }

end ElasticsearchStatus

/-! ## §3. The declaration -/

/-- A declared search cluster. -/
abbrev Elasticsearch := Declaration ElasticsearchSpec ElasticsearchStatus

namespace Elasticsearch

def toJson (es : Elasticsearch) : Json :=
  Declaration.toJson .elasticsearch ElasticsearchSpec.toJson ElasticsearchStatus.toJson es

def ofJson? (v : Json) : Option Elasticsearch :=
  Declaration.ofJson? ElasticsearchSpec.ofJson? (Declaration.withStatus ElasticsearchStatus.ofJson?) v

end Elasticsearch

end LoggingOperator
