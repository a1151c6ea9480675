/-
  LoggingOperator.Kube.Workload — GENERATED OBJECTS.

  The objects that the operator generates, one type per kind.  Each is written
  with the version and the name of its kind and its metadata.
-/
import LoggingOperator.Kube.Kind
import LoggingOperator.Kube.Pod
import LoggingOperator.Text.Base64

namespace LoggingOperator

open Json Json.Record

/-- An object of a kind, with fields of its own. -/
def Kind.object (kind : Kind) (metadata : Metadata) (fields : List (String × Json)) : Json :=
  .ofFields
    (("apiVersion", .string kind.apiVersion) :: ("kind", .string kind.name)
      :: ("metadata", metadata.toJson) :: fields)

/-! ## §1. Workloads -/

/-- Numbered pods, each with a disk and an address of its own. -/
structure StatefulSet where
  metadata : Metadata
  replicas : Int32
  /-- The service under which the pods have their addresses. -/
  serviceName : String
  selector : LabelSelector
  podManagement : String
  updates : String
  template : PodTemplate
  claims : Option (List VolumeClaim) := none
deriving DecidableEq

namespace StatefulSet

def toJson (s : StatefulSet) : Json :=
  Kind.object .statefulSet s.metadata
    [("spec", .ofFields
      (always "replicas" (int32 s.replicas)
        ++ always "serviceName" (.string s.serviceName)
        ++ always "selector" s.selector.toJson
        ++ always "podManagementPolicy" (.string s.podManagement)
        ++ always "updateStrategy" (.ofFields [("type", .string s.updates)])
        ++ always "template" s.template.toJson
        ++ ifSome "volumeClaimTemplates" (writeList VolumeClaim.toJson) s.claims))]

end StatefulSet

/-- Interchangeable pods. -/
structure Deployment where
  metadata : Metadata
  replicas : Int32
  selector : LabelSelector
  template : PodTemplate
deriving DecidableEq

namespace Deployment

def toJson (d : Deployment) : Json :=
  Kind.object .deployment d.metadata
    [("spec", .ofFields [
      ("replicas", int32 d.replicas),
      ("selector", d.selector.toJson),
      ("template", d.template.toJson)])]

end Deployment

/-- A pod on every node. -/
structure DaemonSet where
  metadata : Metadata
  selector : LabelSelector
  template : PodTemplate
deriving DecidableEq

namespace DaemonSet

def toJson (d : DaemonSet) : Json :=
  Kind.object .daemonSet d.metadata
    [("spec", .ofFields [
      ("selector", d.selector.toJson),
      ("template", d.template.toJson)])]

end DaemonSet

/-! ## §2. Services -/

/-- A port that a service forwards to the same port of its pods. -/
structure ServicePort where
  name : String
  port : Int32
deriving DecidableEq

namespace ServicePort

def toJson (p : ServicePort) : Json :=
  .ofFields [
    ("name", .string p.name),
    ("port", int32 p.port),
    ("targetPort", int32 p.port),
    ("protocol", .string "TCP")]

end ServicePort

/-- An address for the pods with certain labels. -/
structure Service where
  metadata : Metadata
  selector : StringMap
  ports : List ServicePort
  /-- No common address, but one for each pod, ready or not. -/
  headless : Bool
deriving DecidableEq

namespace Service

def toJson (s : Service) : Json :=
  Kind.object .service s.metadata
    [("spec", .ofFields
      (always "selector" s.selector.toJson
        ++ always "ports" (writeList ServicePort.toJson s.ports)
        ++ if s.headless then
            [("clusterIP", .string "None"), ("publishNotReadyAddresses", .bool true)]
          else []))]

end Service

/-! ## §3. Data -/

/-- Texts under keys. -/
structure ConfigMap where
  metadata : Metadata
  data : StringMap
deriving DecidableEq

namespace ConfigMap

def toJson (c : ConfigMap) : Json :=
  Kind.object .configMap c.metadata [("data", c.data.toJson)]

end ConfigMap

/-- Bytes under one key. -/
structure Secret where
  metadata : Metadata
  key : String
  value : List UInt8
deriving DecidableEq

namespace Secret

def toJson (s : Secret) : Json :=
  Kind.object .secret s.metadata
    [("data", .ofFields [(s.key, .string (Text.Base64.encoded s.value))])]

/-- The text under a key of a stored secret. -/
def text? (key : String) (stored : Json) : Option String := do
  let encoded ← (← stored.at? ["data", key]).string?
  Text.Base64.text? (← Text.Base64.decode? encoded.toList)

end Secret

/-! ## §4. Rights -/

/-- An identity for pods. -/
structure ServiceAccount where
  metadata : Metadata
deriving DecidableEq

namespace ServiceAccount

def toJson (a : ServiceAccount) : Json :=
  Kind.object .serviceAccount a.metadata []

end ServiceAccount

/-- What may be done with which objects. -/
structure PolicyRule where
  groups : List String
  resources : List String
  verbs : List String
deriving DecidableEq

namespace PolicyRule

def toJson (r : PolicyRule) : Json :=
  .ofFields [
    ("apiGroups", strings r.groups),
    ("resources", strings r.resources),
    ("verbs", strings r.verbs)]

end PolicyRule

/-- Rights in the whole cluster. -/
structure ClusterRole where
  metadata : Metadata
  rules : List PolicyRule
deriving DecidableEq

namespace ClusterRole

def toJson (r : ClusterRole) : Json :=
  Kind.object .clusterRole r.metadata [("rules", writeList PolicyRule.toJson r.rules)]

end ClusterRole

/-- Who has the rights of a cluster role: a service account. -/
structure ClusterRoleBinding where
  metadata : Metadata
  role : String
  accountName : String
  accountNamespace : String
deriving DecidableEq

namespace ClusterRoleBinding

def toJson (b : ClusterRoleBinding) : Json :=
  Kind.object .clusterRoleBinding b.metadata [
    ("roleRef", .ofFields [
      ("apiGroup", .string Kind.clusterRole.group),
      ("kind", .string Kind.clusterRole.name),
      ("name", .string b.role)]),
    ("subjects", .array [.ofFields [
      ("kind", .string Kind.serviceAccount.name),
      ("name", .string b.accountName),
      ("namespace", .string b.accountNamespace)]])]

end ClusterRoleBinding

end LoggingOperator
