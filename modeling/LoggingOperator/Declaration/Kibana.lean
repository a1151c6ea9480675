/-
  LoggingOperator.Declaration.Kibana — A DECLARED DASHBOARD.

  A dashboard is declared by its size and the search cluster it shows.
-/
import LoggingOperator.Declaration.Basic
import LoggingOperator.Declaration.Placement
import LoggingOperator.Declaration.Security

namespace LoggingOperator

open Json Json.Record

/-- What a dashboard should be. -/
structure KibanaSpec where
  replicas : Int32 := 1
  cluster : ClusterReference
  security : Option Security := none
  placement : Option Placement := none
deriving DecidableEq

namespace KibanaSpec

def toJson (s : KibanaSpec) : Json :=
  .ofFields
    (always "replicas" (int32 s.replicas)
      ++ always "esCluster" s.cluster.toJson
      ++ ifSome "esSecurity" Security.toJson s.security
      ++ ifSome "kubernetesConfig" Placement.toJson s.placement)

def ofJson? (v : Json) : Option KibanaSpec := do
  let v ← record? ["replicas", "esCluster", "esSecurity", "kubernetesConfig"] 2 v
  return {
    replicas := ← defaulted v "replicas" 1 int32?
    cluster := ← required v "esCluster" ClusterReference.ofJson?
    security := ← optional v "esSecurity" Security.ofJson?
    placement := ← optional v "kubernetesConfig" Placement.ofJson? }

/-- Is traffic to the cluster encrypted? -/
def tls (s : KibanaSpec) : Bool :=
  match s.security with
  | some security => security.tls
  | none => false

end KibanaSpec

/-- What is known of a dashboard. -/
structure KibanaStatus where
  replicas : Option Int32 := none
  version : Option String := none
deriving DecidableEq

namespace KibanaStatus

def toJson (s : KibanaStatus) : Json :=
  .ofFields
    (ifSome "replicas" int32 s.replicas
      ++ ifSome "esVersion" .string s.version)

def ofJson? (v : Json) : Option KibanaStatus := do
  let v ← record? ["replicas", "esVersion"] 0 v
  return {
    replicas := ← optional v "replicas" int32?
    version := ← optional v "esVersion" string? }

end KibanaStatus

/-- A declared dashboard. -/
abbrev Kibana := Declaration KibanaSpec KibanaStatus

namespace Kibana

def toJson (kb : Kibana) : Json :=
  Declaration.toJson .kibana KibanaSpec.toJson KibanaStatus.toJson kb

def ofJson? (v : Json) : Option Kibana :=
  Declaration.ofJson? KibanaSpec.ofJson? (Declaration.withStatus KibanaStatus.ofJson?) v

end Kibana

end LoggingOperator
