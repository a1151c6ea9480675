/-
  LoggingOperator.Kube.Pod — PODS AND THEIR CONTAINERS.

  The parts of a pod that generated workloads use.  An environment variable is
  either given in clear or read from a secret, and a volume has exactly one
  source, so that a pod that mixes them up cannot be written down.
-/
import LoggingOperator.Json.Record
import LoggingOperator.Kube.Metadata
import LoggingOperator.Kube.Scheduling

namespace LoggingOperator

open Json Json.Record

/-! ## §1. Environment -/

/-- Where the value of an environment variable comes from. -/
inductive EnvValue where
  | literal (text : String)
  /-- The value under a key of a secret. -/
  | fromSecret (secret key : String)
deriving DecidableEq

/-- An environment variable. -/
structure EnvVar where
  name : String
  value : EnvValue
deriving DecidableEq

namespace EnvVar

def toJson (v : EnvVar) : Json :=
  match v.value with
  | .literal text => .ofFields [("name", .string v.name), ("value", .string text)]
  | .fromSecret secret key =>
    .ofFields [("name", .string v.name),
      ("valueFrom", .ofFields
        [("secretKeyRef", .ofFields [("key", .string key), ("name", .string secret)])])]

/-- A variable given in clear. -/
def literal (name text : String) : EnvVar :=
  ⟨name, .literal text⟩

/-- A variable read from a secret. -/
def fromSecret (name secret key : String) : EnvVar :=
  ⟨name, .fromSecret secret key⟩

end EnvVar

/-! ## §2. Volumes -/

/-- Where a volume is mounted in a container. -/
structure VolumeMount where
  name : String
  path : String
  readOnly : Option Bool := none
  subPath : Option String := none
deriving DecidableEq

namespace VolumeMount

def toJson (m : VolumeMount) : Json :=
  .ofFields
    (always "name" (.string m.name)
      ++ always "mountPath" (.string m.path)
      ++ ifSome "readOnly" .bool m.readOnly
      ++ ifSome "subPath" .string m.subPath)

end VolumeMount

/-- What a volume holds. -/
inductive VolumeSource where
  /-- Nothing at first; it lives as long as the pod. -/
  | emptyDir
  | secret (name : String)
  | configMap (name : String)
  /-- A directory of the node. -/
  | hostPath (path : String)
deriving DecidableEq

/-- A volume of a pod. -/
structure Volume where
  name : String
  source : VolumeSource
deriving DecidableEq

namespace Volume

/-- The field that holds the source. -/
def sourceField : VolumeSource → String × Json
  | .emptyDir => ("emptyDir", .empty)
  | .secret name => ("secret", .ofFields [("secretName", .string name)])
  | .configMap name => ("configMap", .ofFields [("name", .string name)])
  | .hostPath path => ("hostPath", .ofFields [("path", .string path)])

def toJson (v : Volume) : Json :=
  .ofFields [("name", .string v.name), sourceField v.source]

end Volume

/-- A disk that is claimed for each pod of a workload. -/
structure VolumeClaim where
  name : String
  accessModes : List String
  storageClass : Option String
  /-- The size asked for. -/
  size : String
deriving DecidableEq

namespace VolumeClaim

def toJson (c : VolumeClaim) : Json :=
  .ofFields [
    ("apiVersion", .string "v1"),
    ("kind", .string "PersistentVolumeClaim"),
    ("metadata", Metadata.toJson { name := some c.name }),
    ("spec", .ofFields
      (always "accessModes" (strings c.accessModes)
        ++ always "resources"
          (.ofFields [("requests", .ofFields [("storage", .string c.size)])])
        ++ ifSome "storageClassName" .string c.storageClass))]

end VolumeClaim

/-! ## §3. Containers -/

/-- A port that a container listens on. -/
structure ContainerPort where
  name : String
  port : Int32
deriving DecidableEq

namespace ContainerPort

def toJson (p : ContainerPort) : Json :=
  .ofFields [("name", .string p.name), ("containerPort", int32 p.port)]

end ContainerPort

/-- A command that is run again and again to see whether a container is
    ready. -/
structure Probe where
  command : List String
  initialDelaySeconds : Int32
  periodSeconds : Int32
  failureThreshold : Int32
  timeoutSeconds : Int32
deriving DecidableEq

namespace Probe

def toJson (p : Probe) : Json :=
  .ofFields [
    ("exec", .ofFields [("command", strings p.command)]),
    ("initialDelaySeconds", int32 p.initialDelaySeconds),
    ("periodSeconds", int32 p.periodSeconds),
    ("failureThreshold", int32 p.failureThreshold),
    ("timeoutSeconds", int32 p.timeoutSeconds)]

end Probe

/-- Rights and identity of a container or of a whole pod. -/
structure SecurityContext where
  privileged : Option Bool := none
  runAsUser : Option Int64 := none
  fsGroup : Option Int64 := none
deriving DecidableEq

namespace SecurityContext

def toJson (c : SecurityContext) : Json :=
  .ofFields
    (ifSome "privileged" .bool c.privileged
      ++ ifSome "runAsUser" int64 c.runAsUser
      ++ ifSome "fsGroup" int64 c.fsGroup)

end SecurityContext

/-- A container. -/
structure Container where
  name : String
  image : String
  command : Option (List String) := none
  env : Option (List EnvVar) := none
  /-- Config maps whose entries become environment variables. -/
  envFrom : Option (List String) := none
  ports : Option (List ContainerPort) := none
  readiness : Option Probe := none
  resources : Option ResourceRequirements := none
  security : Option SecurityContext := none
  mounts : Option (List VolumeMount) := none
deriving DecidableEq

namespace Container

/-- All entries of a config map as environment variables. -/
def envSource (configMap : String) : Json :=
  .ofFields [("configMapRef", .ofFields [("name", .string configMap)])]

def toJson (c : Container) : Json :=
  .ofFields
    (always "name" (.string c.name)
      ++ always "image" (.string c.image)
      ++ ifSome "command" strings c.command
      ++ ifSome "env" (writeList EnvVar.toJson) c.env
      ++ ifSome "envFrom" (writeList envSource) c.envFrom
      ++ ifSome "ports" (writeList ContainerPort.toJson) c.ports
      ++ ifSome "readinessProbe" Probe.toJson c.readiness
      ++ ifSome "resources" ResourceRequirements.toJson c.resources
      ++ ifSome "securityContext" SecurityContext.toJson c.security
      ++ ifSome "volumeMounts" (writeList VolumeMount.toJson) c.mounts)

end Container

/-! ## §4. Pods -/

/-- What the pods of a workload run. -/
structure PodSpec where
  containers : List Container
  initContainers : Option (List Container) := none
  volumes : Option (List Volume) := none
  serviceAccount : Option String := none
  security : Option SecurityContext := none
  enableServiceLinks : Option Bool := none
  affinity : Option Affinity := none
  tolerations : Option (List Toleration) := none
  priorityClass : Option String := none
  nodeSelector : Option StringMap := none
deriving DecidableEq

namespace PodSpec

def toJson (p : PodSpec) : Json :=
  .ofFields
    (always "containers" (writeList Container.toJson p.containers)
      ++ ifSome "initContainers" (writeList Container.toJson) p.initContainers
      ++ ifSome "volumes" (writeList Volume.toJson) p.volumes
      ++ ifSome "serviceAccountName" .string p.serviceAccount
      ++ ifSome "securityContext" SecurityContext.toJson p.security
      ++ ifSome "enableServiceLinks" .bool p.enableServiceLinks
      ++ ifSome "affinity" Affinity.toJson p.affinity
      ++ ifSome "tolerations" (writeList Toleration.toJson) p.tolerations
      ++ ifSome "priorityClassName" .string p.priorityClass
      ++ ifSome "nodeSelector" StringMap.toJson p.nodeSelector)

end PodSpec

/-- The pods of a workload: their labels and what they run. -/
structure PodTemplate where
  labels : StringMap
  spec : PodSpec
deriving DecidableEq

namespace PodTemplate

def toJson (t : PodTemplate) : Json :=
  .ofFields [
    ("metadata", Metadata.toJson { labels := some t.labels }),
    ("spec", t.spec.toJson)]

end PodTemplate

end LoggingOperator
