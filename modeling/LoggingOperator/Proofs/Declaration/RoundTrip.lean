/-
  LoggingOperator.Proofs.Declaration.RoundTrip — DECLARED TYPES SURVIVE THE WIRE.

  A declaration is read from the store, its status is written there, and both
  are read again by the next pass.  So every declared type has to survive the
  way to JSON and back, down to the affinities and tolerations that are
  nested in it (`declared_roundTrips`).

  Types come in the order in which they are nested.  A record is read field by
  field, and what is known of the types of its fields says that each of them
  reads back.
-/
import LoggingOperator.Declaration.Index
import LoggingOperator.Proofs.Declaration.Status
import LoggingOperator.Proofs.Json.RoundTrip

namespace LoggingOperator

open Json Json.Record

/-! ## §1. Resources and selectors -/

instance ResourceClaim.survives : Survives toJson ofJson? :=
  .record (fun _ => rfl) fun c => by simp [toJson, ofJson?]

instance ResourceClaim.printable : Printable toJson 1 :=
  .record (fun _ => rfl) fun c => by simp

instance ResourceRequirements.survives : Survives toJson ofJson? :=
  .record (fun _ => rfl) fun r => by simp [toJson, ofJson?, Keyed.get?_append]

instance ResourceRequirements.printable : Printable toJson 3 :=
  .record (fun _ => rfl) fun r => by simp

instance SelectorRequirement.survives : Survives toJson ofJson? :=
  .record (fun _ => rfl) fun r => by simp [toJson, ofJson?, Keyed.get?_append]

instance SelectorRequirement.printable : Printable toJson 2 :=
  .record (fun _ => rfl) fun r => by simp

instance LabelSelector.survives : Survives toJson ofJson? :=
  .record (fun _ => rfl) fun s => by simp [toJson, ofJson?, Keyed.get?_append]

instance LabelSelector.printable : Printable toJson 4 :=
  .record (fun _ => rfl) fun s => by simp

instance NodeSelectorTerm.survives : Survives toJson ofJson? :=
  .record (fun _ => rfl) fun t => by simp [toJson, ofJson?, Keyed.get?_append]

instance NodeSelectorTerm.printable : Printable toJson 4 :=
  .record (fun _ => rfl) fun t => by simp

instance NodeSelector.survives : Survives toJson ofJson? :=
  .record (fun _ => rfl) fun s => by simp [toJson, ofJson?]

instance NodeSelector.printable : Printable toJson 6 :=
  .record (fun _ => rfl) fun s => by simp

/-! ## §2. Affinities and tolerations -/

instance NodePreference.survives : Survives toJson ofJson? :=
  .record (fun _ => rfl) fun p => by simp [toJson, ofJson?, Keyed.get?_append]

instance NodePreference.printable : Printable toJson 5 :=
  .record (fun _ => rfl) fun p => by simp

instance NodeAffinity.survives : Survives toJson ofJson? :=
  .record (fun _ => rfl) fun a => by simp [toJson, ofJson?, Keyed.get?_append]

instance NodeAffinity.printable : Printable toJson 7 :=
  .record (fun _ => rfl) fun a => by simp

instance PodAffinityTerm.survives : Survives toJson ofJson? :=
  .record (fun _ => rfl) fun t => by simp [toJson, ofJson?, Keyed.get?_append]

instance PodAffinityTerm.printable : Printable toJson 5 :=
  .record (fun _ => rfl) fun t => by simp

instance PodPreference.survives : Survives toJson ofJson? :=
  .record (fun _ => rfl) fun p => by simp [toJson, ofJson?, Keyed.get?_append]

instance PodPreference.printable : Printable toJson 6 :=
  .record (fun _ => rfl) fun p => by simp

instance PodAffinity.survives : Survives toJson ofJson? :=
  .record (fun _ => rfl) fun a => by simp [toJson, ofJson?, Keyed.get?_append]

instance PodAffinity.printable : Printable toJson 8 :=
  .record (fun _ => rfl) fun a => by simp

instance Affinity.survives : Survives toJson ofJson? :=
  .record (fun _ => rfl) fun a => by simp [toJson, ofJson?, Keyed.get?_append]

instance Affinity.printable : Printable toJson 9 :=
  .record (fun _ => rfl) fun a => by simp

instance Toleration.survives : Survives toJson ofJson? :=
  .record (fun _ => rfl) fun t => by simp [toJson, ofJson?, Keyed.get?_append]

instance Toleration.printable : Printable toJson 1 :=
  .record (fun _ => rfl) fun t => by simp

/-! ## §3. The parts of a spec -/

instance Placement.survives : Survives toJson ofJson? :=
  .record (fun _ => rfl) fun p => by simp [toJson, ofJson?, Keyed.get?_append]

instance Placement.printable : Printable toJson 10 :=
  .record (fun _ => rfl) fun p => by simp

instance Storage.survives : Survives toJson ofJson? :=
  .record (fun _ => rfl) fun s => by simp [toJson, ofJson?, Keyed.get?_append]

instance Storage.printable : Printable toJson 2 :=
  .record (fun _ => rfl) fun s => by simp

instance ServiceIntegration.survives : Survives toJson ofJson? :=
  .record (fun _ => rfl) fun i => by simp [toJson, ofJson?, Keyed.get?_append]

instance ServiceIntegration.printable : Printable toJson 1 :=
  .record (fun _ => rfl) fun i => by simp

instance Security.survives : Survives toJson ofJson? :=
  .record (fun _ => rfl) fun s => by simp [toJson, ofJson?, Keyed.get?_append]

instance Security.printable : Printable toJson 2 :=
  .record (fun _ => rfl) fun s => by simp

instance ClusterReference.survives : Survives toJson ofJson? :=
  .record (fun _ => rfl) fun r => by simp [toJson, ofJson?, Keyed.get?_append]

instance ClusterReference.printable : Printable toJson 1 :=
  .record (fun _ => rfl) fun r => by simp

instance ManagementAddress.survives : Survives toJson ofJson? :=
  .record (fun _ => rfl) fun a => by simp [toJson, ofJson?, Keyed.get?_append]

instance ManagementAddress.printable : Printable toJson 1 :=
  .record (fun _ => rfl) fun a => by simp

/-! ## §4. Specs and statuses -/

instance Health.survives : Survives toJson ofJson? :=
  ⟨ofJson?_toJson, nofun⟩

instance Health.printable : Printable toJson 0 :=
  ⟨fun _ => trivial, fun _ _ _ => trivial⟩

instance IndexSplit.survives : Survives toJson ofJson? :=
  ⟨ofJson?_toJson, nofun⟩

instance IndexSplit.printable : Printable toJson 0 :=
  ⟨fun _ => trivial, fun _ _ _ => trivial⟩

instance NodeGroup.survives : Survives toJson ofJson? :=
  .record (fun _ => rfl) fun g => by simp [toJson, ofJson?, Keyed.get?_append]

instance NodeGroup.printable : Printable toJson 11 :=
  .record (fun _ => rfl) fun g => by simp

instance ElasticsearchSpec.survives : Survives toJson ofJson? :=
  .record (fun _ => rfl) fun s => by simp [toJson, ofJson?, Keyed.get?_append, textList]

instance ElasticsearchSpec.printable : Printable toJson 12 :=
  .record (fun _ => rfl) fun s => by simp

instance ElasticsearchStatus.survives : Survives toJson ofJson? :=
  .record (fun _ => rfl) ofJson?_toJson

instance ElasticsearchStatus.printable : Printable toJson 1 :=
  .record (fun _ => rfl) fun s => by simp

instance KibanaSpec.survives : Survives toJson ofJson? :=
  .record (fun _ => rfl) fun s => by simp [toJson, ofJson?, Keyed.get?_append]

instance KibanaSpec.printable : Printable toJson 11 :=
  .record (fun _ => rfl) fun s => by simp

instance KibanaStatus.survives : Survives toJson ofJson? :=
  .record (fun _ => rfl) ofJson?_toJson

instance KibanaStatus.printable : Printable toJson 1 :=
  .record (fun _ => rfl) fun s => by simp

instance FluentdSpec.survives : Survives toJson ofJson? :=
  .record (fun _ => rfl) fun s => by simp [toJson, ofJson?, Keyed.get?_append]

instance FluentdSpec.printable : Printable toJson 11 :=
  .record (fun _ => rfl) fun s => by simp

instance FluentdStatus.survives : Survives toJson ofJson? :=
  .record (fun _ => rfl) ofJson?_toJson

instance FluentdStatus.printable : Printable toJson 1 :=
  .record (fun _ => rfl) fun s => by simp

instance TemplateSettings.survives : Survives toJson ofJson? :=
  .record (fun _ => rfl) fun s => by simp [toJson, ofJson?, Keyed.get?_append]

instance TemplateSettings.printable : Printable toJson 1 :=
  .record (fun _ => rfl) fun s => by simp

instance IndexTemplateSpec.survives : Survives toJson ofJson? :=
  .record (fun _ => rfl) fun s => by simp [toJson, ofJson?, Keyed.get?_append]

instance IndexTemplateSpec.printable : Printable toJson 2 :=
  .record (fun _ => rfl) fun s => by simp

instance Rollover.survives : Survives toJson ofJson? :=
  .record (fun _ => rfl) fun r => by simp [toJson, ofJson?, Keyed.get?_append]

instance Rollover.printable : Printable toJson 1 :=
  .record (fun _ => rfl) fun r => by simp

instance Expiry.survives : Survives toJson ofJson? :=
  .record (fun _ => rfl) fun e => by simp [toJson, ofJson?]

instance Expiry.printable : Printable toJson 1 :=
  .record (fun _ => rfl) fun e => by simp

instance IndexLifecycleSpec.survives : Survives toJson ofJson? :=
  .record (fun _ => rfl) fun s => by simp [toJson, ofJson?, Keyed.get?_append]

instance IndexLifecycleSpec.printable : Printable toJson 2 :=
  .record (fun _ => rfl) fun s => by simp

/-! ## §5. All declared types -/

/-- **Declared types survive the wire**: every spec and every status, and every type
    that is nested in one. -/
theorem declared_roundTrips :
    RoundTrips ElasticsearchSpec.toJson ElasticsearchSpec.ofJson?
      ∧ RoundTrips ElasticsearchStatus.toJson ElasticsearchStatus.ofJson?
      ∧ RoundTrips KibanaSpec.toJson KibanaSpec.ofJson?
      ∧ RoundTrips KibanaStatus.toJson KibanaStatus.ofJson?
      ∧ RoundTrips FluentdSpec.toJson FluentdSpec.ofJson?
      ∧ RoundTrips FluentdStatus.toJson FluentdStatus.ofJson?
      ∧ RoundTrips IndexTemplateSpec.toJson IndexTemplateSpec.ofJson?
      ∧ RoundTrips IndexLifecycleSpec.toJson IndexLifecycleSpec.ofJson?
      ∧ RoundTrips NodeGroup.toJson NodeGroup.ofJson?
      ∧ RoundTrips Security.toJson Security.ofJson?
      ∧ RoundTrips ServiceIntegration.toJson ServiceIntegration.ofJson?
      ∧ RoundTrips Storage.toJson Storage.ofJson?
      ∧ RoundTrips Placement.toJson Placement.ofJson?
      ∧ RoundTrips ResourceRequirements.toJson ResourceRequirements.ofJson?
      ∧ RoundTrips ResourceClaim.toJson ResourceClaim.ofJson?
      ∧ RoundTrips Affinity.toJson Affinity.ofJson?
      ∧ RoundTrips NodeAffinity.toJson NodeAffinity.ofJson?
      ∧ RoundTrips NodePreference.toJson NodePreference.ofJson?
      ∧ RoundTrips NodeSelector.toJson NodeSelector.ofJson?
      ∧ RoundTrips NodeSelectorTerm.toJson NodeSelectorTerm.ofJson?
      ∧ RoundTrips SelectorRequirement.toJson SelectorRequirement.ofJson?
      ∧ RoundTrips PodAffinity.toJson PodAffinity.ofJson?
      ∧ RoundTrips PodPreference.toJson PodPreference.ofJson?
      ∧ RoundTrips PodAffinityTerm.toJson PodAffinityTerm.ofJson?
      ∧ RoundTrips LabelSelector.toJson LabelSelector.ofJson?
      ∧ RoundTrips Toleration.toJson Toleration.ofJson?
      ∧ RoundTrips ClusterReference.toJson ClusterReference.ofJson?
      ∧ RoundTrips ManagementAddress.toJson ManagementAddress.ofJson?
      ∧ RoundTrips IndexSplit.toJson IndexSplit.ofJson?
      ∧ RoundTrips Health.toJson Health.ofJson?
      ∧ RoundTrips TemplateSettings.toJson TemplateSettings.ofJson?
      ∧ RoundTrips Rollover.toJson Rollover.ofJson?
      ∧ RoundTrips Expiry.toJson Expiry.ofJson?
      ∧ RoundTrips StringMap.toJson StringMap.ofJson? := by
  repeat' apply And.intro
  all_goals exact .of_survives (by decide)

/-- An unknown field, a missing default and a `null` are gone once the spec is written; the
    cluster, given by an array, is an object with names for its fields. -/
example :
    (KibanaSpec.ofJson? (.object [("esCluster", .array [.string "es"]), ("esSecurity", .null),
      ("theme", .string "dark")])).map KibanaSpec.toJson
    = some (.object [("esCluster", .object [("clusterName", .string ""), ("esVersion", .string ""),
        ("host", .string "es")]), ("replicas", int32 1)]) := by
  decide +kernel

end LoggingOperator
