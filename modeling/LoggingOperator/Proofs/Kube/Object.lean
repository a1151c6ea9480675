/-
  LoggingOperator.Proofs.Kube.Object — GENERATED OBJECTS ARE JSON VALUES.

  Every type that goes into a generated object is written as a canonical
  value, from the parts of a pod up to the object itself.  The only exception
  are managed fields, which are kept as the server sent them; generated
  objects have none.

  A generated object is found by the name and the namespace of its metadata,
  and it can be sent with the record of itself if it has annotations.
-/
import LoggingOperator.Kube.Workload
import LoggingOperator.Proofs.Convergence.Created
import LoggingOperator.Proofs.Json.Record

namespace LoggingOperator

open Json Json.Record

/-! ## §1. Scheduling -/

namespace ResourceClaim

@[simp] theorem canonical_toJson (c : ResourceClaim) : c.toJson.Canonical := by
  simp [toJson]

end ResourceClaim

namespace ResourceRequirements

@[simp] theorem canonical_toJson (r : ResourceRequirements) : r.toJson.Canonical := by
  simp [toJson]

end ResourceRequirements

namespace SelectorRequirement

@[simp] theorem canonical_toJson (r : SelectorRequirement) : r.toJson.Canonical := by
  simp [toJson]

end SelectorRequirement

namespace LabelSelector

@[simp] theorem canonical_toJson (s : LabelSelector) : s.toJson.Canonical := by
  simp [toJson]

end LabelSelector

namespace NodeSelectorTerm

@[simp] theorem canonical_toJson (t : NodeSelectorTerm) : t.toJson.Canonical := by
  simp [toJson]

end NodeSelectorTerm

namespace NodeSelector

@[simp] theorem canonical_toJson (s : NodeSelector) : s.toJson.Canonical := by
  simp [toJson]

end NodeSelector

namespace NodePreference

@[simp] theorem canonical_toJson (p : NodePreference) : p.toJson.Canonical := by
  simp [toJson]

end NodePreference

namespace NodeAffinity

@[simp] theorem canonical_toJson (a : NodeAffinity) : a.toJson.Canonical := by
  simp [toJson]

end NodeAffinity

namespace PodAffinityTerm

@[simp] theorem canonical_toJson (t : PodAffinityTerm) : t.toJson.Canonical := by
  simp [toJson]

end PodAffinityTerm

namespace PodPreference

@[simp] theorem canonical_toJson (p : PodPreference) : p.toJson.Canonical := by
  simp [toJson]

end PodPreference

namespace PodAffinity

@[simp] theorem canonical_toJson (a : PodAffinity) : a.toJson.Canonical := by
  simp [toJson]

end PodAffinity

namespace Affinity

@[simp] theorem canonical_toJson (a : Affinity) : a.toJson.Canonical := by
  simp [toJson]

end Affinity

namespace Toleration

@[simp] theorem canonical_toJson (t : Toleration) : t.toJson.Canonical := by
  simp [toJson]

end Toleration

/-! ## §2. Metadata -/

namespace OwnerReference

@[simp] theorem canonical_toJson (r : OwnerReference) : r.toJson.Canonical := by
  simp [toJson]

end OwnerReference

namespace Metadata

/-- Metadata without managed fields is a canonical value. -/
theorem canonical_toJson {m : Metadata} (h : m.managedFields = none) : m.toJson.Canonical := by
  simp [toJson, Instant.toJson, h]

@[simp] theorem get?_name (m : Metadata) : m.toJson.get? "name" = m.name.map .string := by
  simp [toJson, Keyed.get?_append]

@[simp] theorem get?_namespace (m : Metadata) : m.toJson.get? "namespace" = m.ns.map .string := by
  simp [toJson, Keyed.get?_append]

@[simp] theorem get?_annotations (m : Metadata) :
    m.toJson.get? "annotations" = m.annotations.map StringMap.toJson := by
  simp [toJson, Keyed.get?_append]

@[simp] theorem get?_resourceVersion (m : Metadata) :
    m.toJson.get? "resourceVersion" = m.resourceVersion.map .string := by
  simp [toJson, Keyed.get?_append]

end Metadata

/-! ## §3. Pods -/

namespace EnvVar

@[simp] theorem canonical_toJson (v : EnvVar) : v.toJson.Canonical := by
  unfold toJson
  split
  · simp
  · next secret key _ =>
    have hreference : (ofFields [("key", .string key), ("name", .string secret)]).Canonical := by
      simp
    simp [hreference]

end EnvVar

namespace VolumeMount

@[simp] theorem canonical_toJson (m : VolumeMount) : m.toJson.Canonical := by
  simp [toJson]

end VolumeMount

namespace Volume

@[simp] theorem canonical_toJson (v : Volume) : v.toJson.Canonical := by
  cases h : v.source <;> simp [toJson, sourceField, h]

end Volume

namespace VolumeClaim

@[simp] theorem canonical_toJson (c : VolumeClaim) : c.toJson.Canonical := by
  have hmetadata : (Metadata.toJson { name := some c.name }).Canonical :=
    Metadata.canonical_toJson rfl
  have hrequests : (ofFields [("requests", ofFields [("storage", .string c.size)])]).Canonical := by
    simp
  simp [toJson, hmetadata, hrequests]

end VolumeClaim

namespace ContainerPort

@[simp] theorem canonical_toJson (p : ContainerPort) : p.toJson.Canonical := by
  simp [toJson]

end ContainerPort

namespace Probe

@[simp] theorem canonical_toJson (p : Probe) : p.toJson.Canonical := by
  simp [toJson]

end Probe

namespace SecurityContext

@[simp] theorem canonical_toJson (c : SecurityContext) : c.toJson.Canonical := by
  simp [toJson]

end SecurityContext

namespace Container

@[simp] theorem canonical_envSource (configMap : String) : (envSource configMap).Canonical := by
  simp [envSource]

@[simp] theorem canonical_toJson (c : Container) : c.toJson.Canonical := by
  simp [toJson]

end Container

namespace PodSpec

@[simp] theorem canonical_toJson (p : PodSpec) : p.toJson.Canonical := by
  simp [toJson]

end PodSpec

namespace PodTemplate

@[simp] theorem canonical_toJson (t : PodTemplate) : t.toJson.Canonical := by
  have hmetadata : (Metadata.toJson { labels := some t.labels }).Canonical :=
    Metadata.canonical_toJson rfl
  simp [toJson, hmetadata]

end PodTemplate

namespace ServicePort

@[simp] theorem canonical_toJson (p : ServicePort) : p.toJson.Canonical := by
  simp [toJson]

end ServicePort

namespace PolicyRule

@[simp] theorem canonical_toJson (r : PolicyRule) : r.toJson.Canonical := by
  simp [toJson]

end PolicyRule

/-! ## §4. Objects of a kind -/

namespace Kind

variable {kind : Kind} {m : Metadata} {fields : List (String × Json)}

theorem canonical_object (hm : m.managedFields = none) (hfields : CanonicalFields fields) :
    (kind.object m fields).Canonical := by
  simp [object, Metadata.canonical_toJson hm, hfields]

theorem get?_metadata : (kind.object m fields).get? "metadata" = some m.toJson := by
  simp [object, Keyed.get?_cons]

/-- A field of the object's own. -/
theorem get?_own {k : String} (hk : k ∉ ["apiVersion", "kind", "metadata"]) :
    (kind.object m fields).get? k = Keyed.get? k fields := by
  simp only [List.mem_cons, List.not_mem_nil, or_false, not_or] at hk
  simp [object, Keyed.get?_cons, Ne.symm hk.1, Ne.symm hk.2.1, Ne.symm hk.2.2]

theorem name_object {name : String} (h : m.name = some name) :
    (kind.object m fields).name = .ok name := by
  simp [Json.name, metaString?, get?_metadata, h, string?]

theorem namespace?_object : (kind.object m fields).namespace? = m.ns := by
  cases h : m.ns <;> simp [namespace?, metaString?, get?_metadata, h, string?]

theorem annotated_object {annotations : StringMap} (h : m.annotations = some annotations) :
    Convergence.Annotated (kind.object m fields) := by
  refine ⟨annotations.entries.map fun e => (e.1, .string e.2), ?_⟩
  simp [at?, get?_metadata, h, StringMap.toJson]

end Kind

end LoggingOperator
