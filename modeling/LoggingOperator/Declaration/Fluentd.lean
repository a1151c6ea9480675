/-
  LoggingOperator.Declaration.Fluentd — A DECLARED LOG SHIPPER.

  A shipper runs on every node and sends logs to a search cluster.  Its logs
  may be split over indices by a field of their metadata.
-/
import LoggingOperator.Declaration.Basic
import LoggingOperator.Declaration.Placement
import LoggingOperator.Declaration.Security

namespace LoggingOperator

open Json Json.Record

/-! ## §1. How indices are split -/

/-- The metadata field by which logs are split over indices. -/
inductive IndexSplit where
  | byNamespace
  | byPod
deriving DecidableEq, Repr

namespace IndexSplit

/-- The name of the field. -/
def field : IndexSplit → String
  | .byNamespace => "namespace_name"
  | .byPod => "pod_name"

/-- Every way to split. -/
def all : List IndexSplit := [.byNamespace, .byPod]

def toJson (s : IndexSplit) : Json :=
  .string s.field

def ofJson? (v : Json) : Option IndexSplit := do
  let field ← word? v
  all.find? fun s => s.field == field

theorem ofJson?_toJson (s : IndexSplit) : ofJson? s.toJson = some s := by
  cases s <;> rfl

end IndexSplit

/-! ## §2. Spec and status -/

/-- What a shipper should be. -/
structure FluentdSpec where
  cluster : ClusterReference
  security : Option Security := none
  placement : Option Placement := none
  split : Option IndexSplit := none
  /-- A config map that takes the place of the generated configuration. -/
  customConfig : Option String := none
  /-- A config map with further pieces of configuration. -/
  additionalConfig : Option String := none
deriving DecidableEq

namespace FluentdSpec

def toJson (s : FluentdSpec) : Json :=
  .ofFields
    (always "esCluster" s.cluster.toJson
      ++ ifSome "esSecurity" Security.toJson s.security
      ++ ifSome "kubernetesConfig" Placement.toJson s.placement
      ++ ifSome "indexNameStrategy" IndexSplit.toJson s.split
      ++ ifSome "customConfig" .string s.customConfig
      ++ ifSome "additionalConfig" .string s.additionalConfig)

def ofJson? (v : Json) : Option FluentdSpec := do
  let v ← record? ["esCluster", "esSecurity", "kubernetesConfig", "indexNameStrategy",
    "customConfig", "additionalConfig"] 1 v
  return {
    cluster := ← required v "esCluster" ClusterReference.ofJson?
    security := ← optional v "esSecurity" Security.ofJson?
    placement := ← optional v "kubernetesConfig" Placement.ofJson?
    split := ← optional v "indexNameStrategy" IndexSplit.ofJson?
    customConfig := ← optional v "customConfig" string?
    additionalConfig := ← optional v "additionalConfig" string? }

end FluentdSpec

/-- What is known of a shipper. -/
structure FluentdStatus where
  /-- How many nodes should run it. -/
  totalAgents : Option Int32 := none
deriving DecidableEq

namespace FluentdStatus

def toJson (s : FluentdStatus) : Json :=
  .ofFields (ifSome "totalAgents" int32 s.totalAgents)

def ofJson? (v : Json) : Option FluentdStatus := do
  let v ← record? ["totalAgents"] 0 v
  return { totalAgents := ← optional v "totalAgents" int32? }

end FluentdStatus

/-- A declared shipper. -/
abbrev Fluentd := Declaration FluentdSpec FluentdStatus

namespace Fluentd

def toJson (fd : Fluentd) : Json :=
  Declaration.toJson .fluentd FluentdSpec.toJson FluentdStatus.toJson fd

def ofJson? (v : Json) : Option Fluentd :=
  Declaration.ofJson? FluentdSpec.ofJson? (Declaration.withStatus FluentdStatus.ofJson?) v

end Fluentd

end LoggingOperator
