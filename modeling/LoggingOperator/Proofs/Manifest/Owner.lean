/-
  LoggingOperator.Proofs.Manifest.Owner — WHAT AN OWNER GENERATES CAN BE WRITTEN.

  Every generated object has the metadata of its owner.  That is all it takes
  for it to be a goal of a pass: it is stored under the name that was asked
  for, in the namespace of the owner or in none, and it has annotations, so
  that it can be sent with the record of itself.
-/
import LoggingOperator.Manifest.Owner
import LoggingOperator.Proofs.Kube.Object
import LoggingOperator.Proofs.Pass.Advance

namespace LoggingOperator

open Json
open Pass (Goal Generated)

/-! ## §1. Owners -/

namespace Owner

/-- A declaration with a full identity is an owner. -/
theorem ofMetadata_eq_ok {kind : DeclaredKind} {m : Metadata} {ns name uid : String}
    (hns : m.ns = some ns) (hname : m.name = some name) (huid : m.uid = some uid) :
    ∃ owner, ofMetadata kind m = .ok owner ∧ owner.ns = ns ∧ owner.name = name := by
  unfold ofMetadata
  rw [hns, hname, huid]
  exact ⟨_, rfl, rfl, rfl⟩

/-- The identity of an owner is that of its declaration. -/
theorem of_ofMetadata {kind : DeclaredKind} {m : Metadata} {owner : Owner}
    (h : ofMetadata kind m = .ok owner) : m.ns = some owner.ns ∧ m.name = some owner.name := by
  unfold ofMetadata at h
  split at h
  · next hns hname _ =>
    cases h
    exact ⟨hns, hname⟩
  · cases h
  · cases h

/-- An object in the namespace of its owner. -/
theorem generated_metadata {kind : Kind} {once : Bool} {fields : List (String × Json)}
    (owner : Owner) (name : String) (labels : StringMap) (h : CanonicalFields fields) :
    Generated ⟨kind, some owner.ns, name, once⟩
      (kind.object (owner.metadata name labels) fields) where
  canonical := Kind.canonical_object rfl h
  named := Kind.name_object rfl
  placed := Kind.namespace?_object
  recordable := (Kind.annotated_object rfl).recordable

/-- An object in no namespace. -/
theorem generated_clusterMetadata {kind : Kind} {once : Bool} {fields : List (String × Json)}
    (owner : Owner) (name : String) (labels : StringMap) (h : CanonicalFields fields) :
    Generated ⟨kind, none, name, once⟩
      (kind.object (owner.clusterMetadata name labels) fields) where
  canonical := Kind.canonical_object rfl h
  named := Kind.name_object rfl
  placed := Kind.namespace?_object
  recordable := (Kind.annotated_object rfl).recordable

end Owner

/-! ## §2. What a builder gives -/

section Built

variable {α : Type} {built : Except BuildError α} {write : α → Json} {d d' : Json}

/-- What is known of the object that a builder gives is known of its JSON value. -/
theorem of_built {P : α → Prop} {Q : Json → Prop} (h : ∃ a, built = .ok a ∧ P a)
    (hd : ∃ a, built = .ok a ∧ d = write a) (himp : ∀ a, P a → Q (write a)) : Q d := by
  obtain ⟨a, ha, hP⟩ := h
  obtain ⟨a', ha', rfl⟩ := hd
  cases ha.symm.trans ha'
  exact himp a hP

/-- A builder gives one object. -/
theorem built_unique (h : ∃ a, built = .ok a ∧ d = write a)
    (h' : ∃ a, built = .ok a ∧ d' = write a) : d = d' :=
  of_built (P := fun a => d = write a) (Q := fun x => d = x) h h' fun _ ha => ha

end Built

/-! ## §3. Objects with the metadata of their owner -/

section Objects

variable {owner : Owner} {name : String} {labels : StringMap}

theorem Deployment.generated {d : Deployment} (h : d.metadata = owner.metadata name labels)
    (once : Bool) : Generated ⟨.deployment, some owner.ns, name, once⟩ d.toJson := by
  rw [toJson, h]
  exact owner.generated_metadata name labels (by simp)

theorem DaemonSet.generated {d : DaemonSet} (h : d.metadata = owner.metadata name labels)
    (once : Bool) : Generated ⟨.daemonSet, some owner.ns, name, once⟩ d.toJson := by
  rw [toJson, h]
  exact owner.generated_metadata name labels (by simp)

theorem StatefulSet.generated {s : StatefulSet} (h : s.metadata = owner.metadata name labels)
    (once : Bool) : Generated ⟨.statefulSet, some owner.ns, name, once⟩ s.toJson := by
  rw [toJson, h]
  exact owner.generated_metadata name labels (by simp)

theorem Service.generated {s : Service} (h : s.metadata = owner.metadata name labels)
    (once : Bool) : Generated ⟨.service, some owner.ns, name, once⟩ s.toJson := by
  rw [toJson, h]
  refine owner.generated_metadata name labels ?_
  cases s.headless <;> simp

theorem ConfigMap.generated {c : ConfigMap} (h : c.metadata = owner.metadata name labels)
    (once : Bool) : Generated ⟨.configMap, some owner.ns, name, once⟩ c.toJson := by
  rw [toJson, h]
  exact owner.generated_metadata name labels (by simp)

theorem Secret.generated {s : Secret} (h : s.metadata = owner.metadata name labels)
    (once : Bool) : Generated ⟨.secret, some owner.ns, name, once⟩ s.toJson := by
  rw [toJson, h]
  exact owner.generated_metadata name labels (by simp)

theorem ServiceAccount.generated {a : ServiceAccount}
    (h : a.metadata = owner.metadata name labels) (once : Bool) :
    Generated ⟨.serviceAccount, some owner.ns, name, once⟩ a.toJson := by
  rw [toJson, h]
  exact owner.generated_metadata name labels (by simp)

theorem ClusterRole.generated {r : ClusterRole}
    (h : r.metadata = owner.clusterMetadata name labels) (once : Bool) :
    Generated ⟨.clusterRole, none, name, once⟩ r.toJson := by
  rw [toJson, h]
  exact owner.generated_clusterMetadata name labels (by simp)

theorem ClusterRoleBinding.generated {b : ClusterRoleBinding}
    (h : b.metadata = owner.clusterMetadata name labels) (once : Bool) :
    Generated ⟨.clusterRoleBinding, none, name, once⟩ b.toJson := by
  rw [toJson, h]
  exact owner.generated_clusterMetadata name labels (by simp [canonical_array])

end Objects

end LoggingOperator
