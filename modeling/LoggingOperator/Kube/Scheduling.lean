/-
  LoggingOperator.Kube.Scheduling — WHERE A POD RUNS AND WHAT IT MAY USE.

  Resource amounts, affinities and tolerations are given by the user inside a
  declaration and copied into a pod as they are.  They are read field by
  field, so that fields of other names are dropped, and written without the
  fields that have no value.
-/
import LoggingOperator.Json.Record
import LoggingOperator.StringMap

namespace LoggingOperator

open Json Json.Record

/-! ## §1. Resources -/

/-- The name of a resource that is claimed elsewhere in the pod. -/
structure ResourceClaim where
  name : String := ""
deriving DecidableEq

namespace ResourceClaim

def toJson (c : ResourceClaim) : Json :=
  .ofFields (always "name" (.string c.name))

def ofJson? (v : Json) : Option ResourceClaim := do
  let v ← object? v
  return { name := ← zeroed v "name" "" string? }

end ResourceClaim

/-- Amounts of resources; an amount is kept as it was written. -/
structure ResourceRequirements where
  claims : Option (List ResourceClaim) := none
  limits : Option StringMap := none
  requests : Option StringMap := none
deriving DecidableEq

namespace ResourceRequirements

def toJson (r : ResourceRequirements) : Json :=
  .ofFields
    (ifSome "claims" (writeList ResourceClaim.toJson) r.claims
      ++ ifSome "limits" StringMap.toJson r.limits
      ++ ifSome "requests" StringMap.toJson r.requests)

def ofJson? (v : Json) : Option ResourceRequirements := do
  let v ← object? v
  return {
    claims := ← optional v "claims" (listOf ResourceClaim.ofJson?)
    limits := ← optional v "limits" StringMap.ofJson?
    requests := ← optional v "requests" StringMap.ofJson? }

end ResourceRequirements

/-! ## §2. Selectors -/

/-- A condition on one label or field: its key, an operator and the values
    that the operator compares with. -/
structure SelectorRequirement where
  key : String := ""
  operator : String := ""
  values : Option (List String) := none
deriving DecidableEq

namespace SelectorRequirement

def toJson (r : SelectorRequirement) : Json :=
  .ofFields
    (always "key" (.string r.key)
      ++ always "operator" (.string r.operator)
      ++ ifSome "values" strings r.values)

def ofJson? (v : Json) : Option SelectorRequirement := do
  let v ← object? v
  return {
    key := ← zeroed v "key" "" string?
    operator := ← zeroed v "operator" "" string?
    values := ← optional v "values" textList }

end SelectorRequirement

/-- A condition on labels. -/
structure LabelSelector where
  matchExpressions : Option (List SelectorRequirement) := none
  matchLabels : Option StringMap := none
deriving DecidableEq

namespace LabelSelector

def toJson (s : LabelSelector) : Json :=
  .ofFields
    (ifSome "matchExpressions" (writeList SelectorRequirement.toJson) s.matchExpressions
      ++ ifSome "matchLabels" StringMap.toJson s.matchLabels)

def ofJson? (v : Json) : Option LabelSelector := do
  let v ← object? v
  return {
    matchExpressions := ← optional v "matchExpressions" (listOf SelectorRequirement.ofJson?)
    matchLabels := ← optional v "matchLabels" StringMap.ofJson? }

/-- The objects that carry all these labels. -/
def ofLabels (labels : StringMap) : LabelSelector :=
  { matchLabels := some labels }

end LabelSelector

/-- A condition on a node. -/
structure NodeSelectorTerm where
  matchExpressions : Option (List SelectorRequirement) := none
  matchFields : Option (List SelectorRequirement) := none
deriving DecidableEq

namespace NodeSelectorTerm

def toJson (t : NodeSelectorTerm) : Json :=
  .ofFields
    (ifSome "matchExpressions" (writeList SelectorRequirement.toJson) t.matchExpressions
      ++ ifSome "matchFields" (writeList SelectorRequirement.toJson) t.matchFields)

def ofJson? (v : Json) : Option NodeSelectorTerm := do
  let v ← object? v
  return {
    matchExpressions := ← optional v "matchExpressions" (listOf SelectorRequirement.ofJson?)
    matchFields := ← optional v "matchFields" (listOf SelectorRequirement.ofJson?) }

end NodeSelectorTerm

/-- Alternatives, one of which a node has to meet. -/
structure NodeSelector where
  terms : List NodeSelectorTerm := []
deriving DecidableEq

namespace NodeSelector

def toJson (s : NodeSelector) : Json :=
  .ofFields (always "nodeSelectorTerms" (writeList NodeSelectorTerm.toJson s.terms))

def ofJson? (v : Json) : Option NodeSelector := do
  let v ← object? v
  return { terms := ← zeroed v "nodeSelectorTerms" [] (listOf NodeSelectorTerm.ofJson?) }

end NodeSelector

/-! ## §3. Affinity to nodes -/

/-- A wish about nodes, with its weight. -/
structure NodePreference where
  preference : NodeSelectorTerm := {}
  weight : Int32 := 0
deriving DecidableEq

namespace NodePreference

def toJson (p : NodePreference) : Json :=
  .ofFields (always "preference" p.preference.toJson ++ always "weight" (int32 p.weight))

def ofJson? (v : Json) : Option NodePreference := do
  let v ← object? v
  return {
    preference := ← zeroed v "preference" {} NodeSelectorTerm.ofJson?
    weight := ← zeroed v "weight" 0 int32? }

end NodePreference

/-- Wishes and conditions about the node of a pod. -/
structure NodeAffinity where
  preferred : Option (List NodePreference) := none
  required : Option NodeSelector := none
deriving DecidableEq

namespace NodeAffinity

def toJson (a : NodeAffinity) : Json :=
  .ofFields
    (ifSome "preferredDuringSchedulingIgnoredDuringExecution"
        (writeList NodePreference.toJson) a.preferred
      ++ ifSome "requiredDuringSchedulingIgnoredDuringExecution" NodeSelector.toJson a.required)

def ofJson? (v : Json) : Option NodeAffinity := do
  let v ← object? v
  return {
    preferred := ← optional v "preferredDuringSchedulingIgnoredDuringExecution"
      (listOf NodePreference.ofJson?)
    required := ← optional v "requiredDuringSchedulingIgnoredDuringExecution"
      NodeSelector.ofJson? }

end NodeAffinity

/-! ## §4. Affinity to other pods -/

/-- A condition on the pods that run within the same topology domain. -/
structure PodAffinityTerm where
  labelSelector : Option LabelSelector := none
  matchLabelKeys : Option (List String) := none
  mismatchLabelKeys : Option (List String) := none
  namespaceSelector : Option LabelSelector := none
  namespaces : Option (List String) := none
  topologyKey : String := ""
deriving DecidableEq

namespace PodAffinityTerm

def toJson (t : PodAffinityTerm) : Json :=
  .ofFields
    (ifSome "labelSelector" LabelSelector.toJson t.labelSelector
      ++ ifSome "matchLabelKeys" strings t.matchLabelKeys
      ++ ifSome "mismatchLabelKeys" strings t.mismatchLabelKeys
      ++ ifSome "namespaceSelector" LabelSelector.toJson t.namespaceSelector
      ++ ifSome "namespaces" strings t.namespaces
      ++ always "topologyKey" (.string t.topologyKey))

def ofJson? (v : Json) : Option PodAffinityTerm := do
  let v ← object? v
  return {
    labelSelector := ← optional v "labelSelector" LabelSelector.ofJson?
    matchLabelKeys := ← optional v "matchLabelKeys" textList
    mismatchLabelKeys := ← optional v "mismatchLabelKeys" textList
    namespaceSelector := ← optional v "namespaceSelector" LabelSelector.ofJson?
    namespaces := ← optional v "namespaces" textList
    topologyKey := ← zeroed v "topologyKey" "" string? }

end PodAffinityTerm

/-- A wish about other pods, with its weight. -/
structure PodPreference where
  term : PodAffinityTerm := {}
  weight : Int32 := 0
deriving DecidableEq

namespace PodPreference

def toJson (p : PodPreference) : Json :=
  .ofFields (always "podAffinityTerm" p.term.toJson ++ always "weight" (int32 p.weight))

def ofJson? (v : Json) : Option PodPreference := do
  let v ← object? v
  return {
    term := ← zeroed v "podAffinityTerm" {} PodAffinityTerm.ofJson?
    weight := ← zeroed v "weight" 0 int32? }

end PodPreference

/-- Wishes and conditions about the pods beside a pod, or the pods to avoid. -/
structure PodAffinity where
  preferred : Option (List PodPreference) := none
  required : Option (List PodAffinityTerm) := none
deriving DecidableEq

namespace PodAffinity

def toJson (a : PodAffinity) : Json :=
  .ofFields
    (ifSome "preferredDuringSchedulingIgnoredDuringExecution"
        (writeList PodPreference.toJson) a.preferred
      ++ ifSome "requiredDuringSchedulingIgnoredDuringExecution"
        (writeList PodAffinityTerm.toJson) a.required)

def ofJson? (v : Json) : Option PodAffinity := do
  let v ← object? v
  return {
    preferred := ← optional v "preferredDuringSchedulingIgnoredDuringExecution"
      (listOf PodPreference.ofJson?)
    required := ← optional v "requiredDuringSchedulingIgnoredDuringExecution"
      (listOf PodAffinityTerm.ofJson?) }

end PodAffinity

/-- Where a pod may run. -/
structure Affinity where
  node : Option NodeAffinity := none
  pod : Option PodAffinity := none
  antiPod : Option PodAffinity := none
deriving DecidableEq

namespace Affinity

def toJson (a : Affinity) : Json :=
  .ofFields
    (ifSome "nodeAffinity" NodeAffinity.toJson a.node
      ++ ifSome "podAffinity" PodAffinity.toJson a.pod
      ++ ifSome "podAntiAffinity" PodAffinity.toJson a.antiPod)

def ofJson? (v : Json) : Option Affinity := do
  let v ← object? v
  return {
    node := ← optional v "nodeAffinity" NodeAffinity.ofJson?
    pod := ← optional v "podAffinity" PodAffinity.ofJson?
    antiPod := ← optional v "podAntiAffinity" PodAffinity.ofJson? }

end Affinity

/-! ## §5. Tolerations -/

/-- A taint of a node that a pod tolerates. -/
structure Toleration where
  effect : Option String := none
  key : Option String := none
  operator : Option String := none
  tolerationSeconds : Option Int64 := none
  value : Option String := none
deriving DecidableEq

namespace Toleration

def toJson (t : Toleration) : Json :=
  .ofFields
    (ifSome "effect" .string t.effect
      ++ ifSome "key" .string t.key
      ++ ifSome "operator" .string t.operator
      ++ ifSome "tolerationSeconds" int64 t.tolerationSeconds
      ++ ifSome "value" .string t.value)

def ofJson? (v : Json) : Option Toleration := do
  let v ← object? v
  return {
    effect := ← optional v "effect" string?
    key := ← optional v "key" string?
    operator := ← optional v "operator" string?
    tolerationSeconds := ← optional v "tolerationSeconds" int64?
    value := ← optional v "value" string? }

end Toleration

end LoggingOperator
