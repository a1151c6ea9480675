/-
  LoggingOperator.Declaration.Placement — SIZE, PLACE AND STORAGE OF PODS.

  The parts of a declaration that size the pods of a workload, choose the
  nodes they run on and ask for their disks.
-/
import LoggingOperator.Kube.Scheduling

namespace LoggingOperator

open Json Json.Record

/-! ## §1. Placement -/

/-- Resources and placement of the pods of a workload. -/
structure Placement where
  resources : Option ResourceRequirements := none
  affinity : Option Affinity := none
  tolerations : Option (List Toleration) := none
  priorityClass : Option String := none
  nodeSelector : Option StringMap := none
deriving DecidableEq

namespace Placement

def toJson (p : Placement) : Json :=
  .ofFields
    (ifSome "resources" ResourceRequirements.toJson p.resources
      ++ ifSome "affinity" Affinity.toJson p.affinity
      ++ ifSome "tolerations" (writeList Toleration.toJson) p.tolerations
      ++ ifSome "priorityClassName" .string p.priorityClass
      ++ ifSome "nodeSelector" StringMap.toJson p.nodeSelector)

def ofJson? (v : Json) : Option Placement := do
  let v ← record? ["resources", "affinity", "tolerations", "priorityClassName", "nodeSelector"] 0 v
  return {
    resources := ← optional v "resources" ResourceRequirements.ofJson?
    affinity := ← optional v "affinity" Affinity.ofJson?
    tolerations := ← optional v "tolerations" (listOf Toleration.ofJson?)
    priorityClass := ← optional v "priorityClassName" string?
    nodeSelector := ← optional v "nodeSelector" StringMap.ofJson? }

end Placement

/-! ## §2. Storage -/

/-- A disk for each node of a workload. -/
structure Storage where
  accessModes : List String := ["ReadWriteOnce"]
  storageClass : Option String := none
  size : String := "1Gi"
deriving DecidableEq

namespace Storage

def toJson (s : Storage) : Json :=
  .ofFields
    (always "accessModes" (strings s.accessModes)
      ++ ifSome "storageClass" .string s.storageClass
      ++ always "storageSize" (.string s.size))

def ofJson? (v : Json) : Option Storage := do
  let v ← record? ["accessModes", "storageClass", "storageSize"] 0 v
  let default : Storage := {}
  return {
    accessModes := ← defaulted v "accessModes" default.accessModes textList
    storageClass := ← optional v "storageClass" string?
    size := ← defaulted v "storageSize" default.size string? }

end Storage

end LoggingOperator
