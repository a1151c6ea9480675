/-
  LoggingOperator.Proofs.Declaration.Status — A STATUS WRITE IS NO NEW DECLARATION.

  Each pass ends with a write to the status of its declaration, and the next
  pass reads the declaration afresh.  What it reads is the declaration of
  before, with the status that was written and the resource version that the
  store gave out (`ofJson?_restated`): every status reads back, and reading
  metadata looks at each field by itself.
-/
import LoggingOperator.Declaration.Elasticsearch
import LoggingOperator.Declaration.Fluentd
import LoggingOperator.Declaration.Kibana
import LoggingOperator.Proofs.Kube.Object
import LoggingOperator.Store.Basic

namespace LoggingOperator

open Json Json.Record

/-! ## §1. Statuses read back -/

theorem optional_string {v : Json} {key : String} {o : Option String}
    (h : v.get? key = o.map .string) : optional v key string? = some o :=
  optional_eq h (fun _ => rfl) nofun

theorem optional_int32 {v : Json} {key : String} {o : Option Int32}
    (h : v.get? key = o.map int32) : optional v key int32? = some o :=
  optional_eq h int32?_int32 nofun

theorem ElasticsearchStatus.ofJson?_toJson (s : ElasticsearchStatus) :
    ofJson? s.toJson = some s := by
  have hrecord : ∀ names least, record? names least s.toJson = some s.toJson :=
    fun _ _ => rfl
  have hversion : optional s.toJson "esVersion" string? = some s.version :=
    optional_string (by simp [toJson, Keyed.get?_append])
  have hhealth : defaulted s.toJson "esClusterState" .unknown Health.ofJson? = some s.health :=
    defaulted_eq (by simp [toJson, Keyed.get?_append]) (Health.ofJson?_toJson s.health)
  have hshards : optional s.toJson "activeShards" int32? = some s.activeShards :=
    optional_int32 (by simp [toJson, Keyed.get?_append])
  have hmaster : optional s.toJson "esMaster" int32? = some s.master :=
    optional_int32 (by simp [toJson, Keyed.get?_append])
  have hdata : optional s.toJson "esData" int32? = some s.data :=
    optional_int32 (by simp [toJson, Keyed.get?_append])
  have hingestion : optional s.toJson "esIngestion" int32? = some s.ingestion :=
    optional_int32 (by simp [toJson, Keyed.get?_append])
  have hclient : optional s.toJson "esClient" int32? = some s.client :=
    optional_int32 (by simp [toJson, Keyed.get?_append])
  simp only [ofJson?, hrecord, hversion, hhealth, hshards, hmaster, hdata, hingestion, hclient,
    Option.bind_eq_bind, Option.bind_some]
  rfl

theorem KibanaStatus.ofJson?_toJson (s : KibanaStatus) : ofJson? s.toJson = some s := by
  have hrecord : ∀ names least, record? names least s.toJson = some s.toJson :=
    fun _ _ => rfl
  have hreplicas : optional s.toJson "replicas" int32? = some s.replicas :=
    optional_int32 (by simp [toJson, Keyed.get?_append])
  have hversion : optional s.toJson "esVersion" string? = some s.version :=
    optional_string (by simp [toJson, Keyed.get?_append])
  simp only [ofJson?, hrecord, hreplicas, hversion, Option.bind_eq_bind, Option.bind_some]
  rfl

theorem FluentdStatus.ofJson?_toJson (s : FluentdStatus) : ofJson? s.toJson = some s := by
  have hrecord : ∀ names least, record? names least s.toJson = some s.toJson :=
    fun _ _ => rfl
  have hagents : optional s.toJson "totalAgents" int32? = some s.totalAgents :=
    optional_int32 (by simp [toJson])
  simp only [ofJson?, hrecord, hagents, Option.bind_eq_bind, Option.bind_some]
  rfl

/-! ## §2. Metadata with another resource version -/

namespace Metadata

/-- The fields of an object are read as those of the metadata. -/
structure Reads (v : Json) (m : Metadata) : Prop where
  isObject : object? v = some v
  annotations : optional v "annotations" StringMap.ofJson? = some m.annotations
  creationTimestamp : optional v "creationTimestamp" Instant.ofJson? = some m.creationTimestamp
  deletionGracePeriodSeconds : optional v "deletionGracePeriodSeconds" int64? = some m.deletionGracePeriodSeconds
  deletionTimestamp : optional v "deletionTimestamp" Instant.ofJson? = some m.deletionTimestamp
  finalizers : optional v "finalizers" textList = some m.finalizers
  generateName : optional v "generateName" string? = some m.generateName
  generation : optional v "generation" int64? = some m.generation
  labels : optional v "labels" StringMap.ofJson? = some m.labels
  managedFields : optional v "managedFields" (listOf ManagedFields.ofJson?) = some m.managedFields
  name : optional v "name" string? = some m.name
  ns : optional v "namespace" string? = some m.ns
  ownerReferences : optional v "ownerReferences" (listOf OwnerReference.ofJson?) = some m.ownerReferences
  resourceVersion : optional v "resourceVersion" string? = some m.resourceVersion
  selfLink : optional v "selfLink" string? = some m.selfLink
  uid : optional v "uid" string? = some m.uid

/-- Metadata is read field by field. -/
theorem ofJson?_eq_some_iff {v : Json} {m : Metadata} : ofJson? v = some m ↔ Reads v m := by
  constructor
  · intro h
    -- One bind a field, in the order in which they are read.
    unfold ofJson? at h
    obtain ⟨u, hu, hrest⟩ := Option.bind_eq_some_iff.1 h
    have huv : u = v := by
      unfold object? at hu
      split at hu
      · exact (Option.some.inj hu).symm
      · cases hu
    subst huv
    obtain ⟨_, h₁, hrest⟩ := Option.bind_eq_some_iff.1 hrest
    obtain ⟨_, h₂, hrest⟩ := Option.bind_eq_some_iff.1 hrest
    obtain ⟨_, h₃, hrest⟩ := Option.bind_eq_some_iff.1 hrest
    obtain ⟨_, h₄, hrest⟩ := Option.bind_eq_some_iff.1 hrest
    obtain ⟨_, h₅, hrest⟩ := Option.bind_eq_some_iff.1 hrest
    obtain ⟨_, h₆, hrest⟩ := Option.bind_eq_some_iff.1 hrest
    obtain ⟨_, h₇, hrest⟩ := Option.bind_eq_some_iff.1 hrest
    obtain ⟨_, h₈, hrest⟩ := Option.bind_eq_some_iff.1 hrest
    obtain ⟨_, h₉, hrest⟩ := Option.bind_eq_some_iff.1 hrest
    obtain ⟨_, h₁₀, hrest⟩ := Option.bind_eq_some_iff.1 hrest
    obtain ⟨_, h₁₁, hrest⟩ := Option.bind_eq_some_iff.1 hrest
    obtain ⟨_, h₁₂, hrest⟩ := Option.bind_eq_some_iff.1 hrest
    obtain ⟨_, h₁₃, hrest⟩ := Option.bind_eq_some_iff.1 hrest
    obtain ⟨_, h₁₄, hrest⟩ := Option.bind_eq_some_iff.1 hrest
    obtain ⟨_, h₁₅, hrest⟩ := Option.bind_eq_some_iff.1 hrest
    cases hrest
    exact ⟨hu, h₁, h₂, h₃, h₄, h₅, h₆, h₇, h₈, h₉, h₁₀, h₁₁, h₁₂, h₁₃, h₁₄, h₁₅⟩
  · rintro ⟨hobject, h₁, h₂, h₃, h₄, h₅, h₆, h₇, h₈, h₉, h₁₀, h₁₁, h₁₂, h₁₃, h₁₄, h₁₅⟩
    unfold ofJson?
    refine Option.bind_eq_some_iff.2 ⟨_, hobject, ?_⟩
    refine Option.bind_eq_some_iff.2 ⟨_, h₁, ?_⟩
    refine Option.bind_eq_some_iff.2 ⟨_, h₂, ?_⟩
    refine Option.bind_eq_some_iff.2 ⟨_, h₃, ?_⟩
    refine Option.bind_eq_some_iff.2 ⟨_, h₄, ?_⟩
    refine Option.bind_eq_some_iff.2 ⟨_, h₅, ?_⟩
    refine Option.bind_eq_some_iff.2 ⟨_, h₆, ?_⟩
    refine Option.bind_eq_some_iff.2 ⟨_, h₇, ?_⟩
    refine Option.bind_eq_some_iff.2 ⟨_, h₈, ?_⟩
    refine Option.bind_eq_some_iff.2 ⟨_, h₉, ?_⟩
    refine Option.bind_eq_some_iff.2 ⟨_, h₁₀, ?_⟩
    refine Option.bind_eq_some_iff.2 ⟨_, h₁₁, ?_⟩
    refine Option.bind_eq_some_iff.2 ⟨_, h₁₂, ?_⟩
    refine Option.bind_eq_some_iff.2 ⟨_, h₁₃, ?_⟩
    refine Option.bind_eq_some_iff.2 ⟨_, h₁₄, ?_⟩
    refine Option.bind_eq_some_iff.2 ⟨_, h₁₅, ?_⟩
    rfl

/-- The resource version is read like every other field, by itself. -/
theorem ofJson?_set_resourceVersion {v : Json} {m : Metadata} (h : ofJson? v = some m)
    (version : String) :
    ofJson? (v.set "resourceVersion" (.string version))
      = some { m with resourceVersion := some version } := by
  cases v with
  | object fields =>
    have hother : ∀ {α : Type} {key : String} {read : Json → Option α} {a : Option α},
        optional (.object fields) key read = some a → "resourceVersion" ≠ key →
        optional (set (.object fields) "resourceVersion" (.string version)) key read = some a := by
      intro α key read a ha hne
      rw [Record.optional, get?_set, if_neg hne]
      exact ha
    have hversion : optional (set (.object fields) "resourceVersion" (.string version))
        "resourceVersion" string? = some (some version) := by
      rw [Record.optional, get?_set, if_pos rfl]
      rfl
    have hread := ofJson?_eq_some_iff.1 h
    exact ofJson?_eq_some_iff.2 {
      isObject := rfl
      annotations := hother hread.annotations (by decide)
      creationTimestamp := hother hread.creationTimestamp (by decide)
      deletionGracePeriodSeconds := hother hread.deletionGracePeriodSeconds (by decide)
      deletionTimestamp := hother hread.deletionTimestamp (by decide)
      finalizers := hother hread.finalizers (by decide)
      generateName := hother hread.generateName (by decide)
      generation := hother hread.generation (by decide)
      labels := hother hread.labels (by decide)
      managedFields := hother hread.managedFields (by decide)
      name := hother hread.name (by decide)
      ns := hother hread.ns (by decide)
      ownerReferences := hother hread.ownerReferences (by decide)
      resourceVersion := hversion
      selfLink := hother hread.selfLink (by decide)
      uid := hother hread.uid (by decide) }
  | _ => cases h

/-- The resource version as it is read is the one that the store compares. -/
theorem resourceVersion_ofJson? {v : Json} {m : Metadata} (h : ofJson? v = some m) :
    (v.get? "resourceVersion").bind string? = m.resourceVersion := by
  have hversion := (ofJson?_eq_some_iff.1 h).resourceVersion
  cases hget : v.get? "resourceVersion" with
  | none =>
    rw [Record.optional, hget] at hversion
    exact Option.some.inj hversion
  | some field =>
    rw [Record.optional, hget] at hversion
    cases field with
    | null | string => exact Option.some.inj hversion
    | _ => cases hversion

end Metadata

/-! ## §3. The declaration after a status write -/

namespace Declaration

variable {Spec Status : Type} {readSpec : Json → Option Spec} {readStatus : Json → Option Status}
  {v : Json} {d : Declaration Spec Status}

/-- The parts of an object that a declaration is read from. -/
theorem parts_of_ofJson? (h : ofJson? readSpec (withStatus readStatus) v = some d) :
    ∃ fields metadata spec, v = .object fields
      ∧ v.get? "metadata" = some metadata ∧ Metadata.ofJson? metadata = some d.metadata
      ∧ v.get? "spec" = some spec ∧ readSpec spec = some d.spec := by
  cases v with
  | object fields =>
    have hobject : object? (.object fields) = some (.object fields) := rfl
    simp only [ofJson?, hobject, Option.bind_eq_bind, Option.bind_some, required,
      Option.bind_eq_some_iff] at h
    obtain ⟨_, ⟨metadata, hmetadata, hm⟩, _, ⟨spec, hspec, hs⟩, _, -, hd⟩ := h
    cases hd
    exact ⟨fields, metadata, spec, rfl, hmetadata, hm, hspec, hs⟩
  | _ => cases h

/-- **A status write leaves metadata and spec as they were read**, but for the
    resource version. -/
theorem ofJson?_restated (h : ofJson? readSpec (withStatus readStatus) v = some d)
    {written : Json} {status : Status} (hnull : written ≠ .null)
    (hread : readStatus written = some status) (version : String) :
    ofJson? readSpec (withStatus readStatus)
        (Store.setMeta "resourceVersion" (.string version) (v.set "status" written))
      = some { d with
          metadata := { d.metadata with resourceVersion := some version }
          status := some status } := by
  obtain ⟨fields, metadata, spec, rfl, hmetadata, hm, hspec, hs⟩ := parts_of_ofJson? h
  have hset : ∀ k, (set (.object fields) "status" written).get? k
      = if "status" = k then some written else get? k (.object fields) :=
    fun k => get?_set k "status" written fields
  -- The metadata is there, so no empty one is put in its place.
  have hnew : (set (.object fields) "status" written).setIfNew "metadata" .empty
      = set (.object fields) "status" written := by
    have hhas : Keyed.get? "metadata" (Keyed.insert "status" written fields) = some metadata := by
      rw [Keyed.get?_insert, if_neg (by decide)]
      exact hmetadata
    show Json.object (Keyed.insertIfNew "metadata" _ _) = Json.object _
    rw [Keyed.insertIfNew, Keyed.has, hhas]
    rfl
  have hget : ∀ k, (Store.setMeta "resourceVersion" (.string version)
      (set (.object fields) "status" written)).get? k
      = if "metadata" = k then
          (get? k (set (.object fields) "status" written)).map
            fun m => m.set "resourceVersion" (.string version)
        else get? k (set (.object fields) "status" written) := by
    intro k
    rw [Store.setMeta, hnew, get?_modify]
  have hobject : object? (Store.setMeta "resourceVersion" (.string version)
      (set (.object fields) "status" written))
      = some (Store.setMeta "resourceVersion" (.string version)
        (set (.object fields) "status" written)) := by
    rw [Store.setMeta, hnew]
    rfl
  have hmetadata' : required (Store.setMeta "resourceVersion" (.string version)
      (set (.object fields) "status" written)) "metadata" Metadata.ofJson?
      = some { d.metadata with resourceVersion := some version } := by
    rw [required, hget, if_pos rfl, hset, if_neg (by decide), hmetadata]
    exact Metadata.ofJson?_set_resourceVersion hm version
  have hspec' : required (Store.setMeta "resourceVersion" (.string version)
      (set (.object fields) "status" written)) "spec" readSpec = some d.spec := by
    rw [required, hget, if_neg (by decide), hset, if_neg (by decide), hspec]
    exact hs
  have hstatus : withStatus readStatus (Store.setMeta "resourceVersion" (.string version)
      (set (.object fields) "status" written)) = some (some status) := by
    rw [withStatus, Record.optional, hget, if_neg (by decide), hset, if_pos rfl]
    cases written <;> simp_all
  simp only [ofJson?, hobject, hmetadata', hspec', hstatus, Option.bind_eq_bind, Option.bind_some]
  rfl

end Declaration

end LoggingOperator
