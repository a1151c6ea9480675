/-
  LoggingOperator.Proofs.Pass.Workload — BUILT WORKLOADS REFER TO WHAT THERE IS.

  The StatefulSet of a role is put together from independent options: traffic
  may be encrypted, plugins installed, disks claimed, a password generated or
  named.  Each of them adds volumes, mounts, variables or references from a
  place of its own.  A reference without its target shows only as a pod that
  never starts.

  Whatever is declared, every mount finds its volume, every variable has a name
  of its own, every secret is the user's or created by an earlier step of the
  same plan, and the names of services and nodes are those of what is built
  beside it (`Closed`).  Only declared roles are planned, so that no pass fails
  for an object that cannot be built (`Buildable`); both together are
  `workloads_closed`.
-/
import LoggingOperator.Proofs.Pass.SetUp
import Mathlib.Data.List.Nodup

namespace LoggingOperator

/-! ## §1. What a workload refers to -/

/-- The secret that a variable is read from. -/
def EnvVar.secret? (v : EnvVar) : Option String :=
  match v.value with
  | .literal _ => none
  | .fromSecret secret _ => some secret

/-- The secret that a volume holds. -/
def Volume.secret? (v : Volume) : Option String :=
  match v.source with
  | .secret name => some name
  | _ => none

namespace PodSpec

/-- The containers of a pod, those that run first included. -/
def allContainers (p : PodSpec) : List Container :=
  p.initContainers.getD [] ++ p.containers

/-- The secrets that a pod refers to. -/
def secrets (p : PodSpec) : List String :=
  (p.allContainers.flatMap fun c => (c.env.getD []).filterMap EnvVar.secret?)
    ++ (p.volumes.getD []).filterMap Volume.secret?

end PodSpec

/-- What the containers of a workload may mount: the volumes of its pods and the
    disks that are claimed for them. -/
def StatefulSet.volumeNames (s : StatefulSet) : List String :=
  (s.template.spec.volumes.getD []).map (·.name) ++ (s.claims.getD []).map (·.name)

namespace Manifest

/-! ## §2. Environments -/

/-- Variables with names of their own are sorted strictly. -/
theorem pairwise_sortedEnv {vars : List EnvVar} (h : (vars.map (·.name)).Nodup) :
    ((sortedEnv vars).map (·.name)).Pairwise (· < ·) := by
  have hsorted : (sortedEnv vars).Pairwise fun a b => decide (a.name ≤ b.name) = true := by
    refine List.pairwise_mergeSort ?_ ?_ vars
    · intro a b c hab hbc
      exact decide_eq_true (String.le_trans (of_decide_eq_true hab) (of_decide_eq_true hbc))
    · intro a b
      simpa using String.le_total a.name b.name
  have hnames : ((sortedEnv vars).map (·.name)).Nodup :=
    ((perm_sortedEnv vars).map _).nodup_iff.2 h
  rw [List.pairwise_map]
  refine hsorted.imp₂ (fun a b hle hne => ?_) (List.pairwise_map.1 hnames)
  exact Keyed.lt_of_not_lt_of_ne (of_decide_eq_true hle) hne

namespace Elasticsearch

/-- The variables of a role before they are sorted. -/
def declaredVars (id : String) (spec : ElasticsearchSpec) (role : Role) (group : NodeGroup) :
    List EnvVar :=
  [ .literal "ELASTIC_USERNAME" "elastic",
    .literal "SCHEME" spec.scheme,
    .literal "ES_JAVA_OPTS" (heapOptions group),
    .literal "discovery.seed_hosts" (Naming.headless id .master),
    .literal "network.host" "0.0.0.0",
    .literal "cluster.name" spec.clusterName]
    ++ passwordVars id spec.security
    ++ roleVars id role group
    ++ (if spec.tls then encryptionVars else [])

/-- Their names, which depend on a few choices alone. -/
def varNames (password tls : Bool) (role : Role) : List String :=
  ["ELASTIC_USERNAME", "SCHEME", "ES_JAVA_OPTS", "discovery.seed_hosts", "network.host",
    "cluster.name"]
    ++ (if password then ["ELASTIC_PASSWORD"] else [])
    ++ (if role = .master then
        ["cluster.initial_master_nodes", "node.master", "node.data", "node.ingest"]
      else ["node.roles"])
    ++ (if tls then encryptionVars.map (·.name) else [])

theorem nodup_varNames : ∀ (password tls : Bool) (role : Role),
    (varNames password tls role).Nodup := by
  intro password tls role
  cases password <;> cases tls <;> cases role <;> decide

variable {es : LoggingOperator.Elasticsearch} {owner : Owner} {role : Role} {group : NodeGroup}
  {id : String} {spec : ElasticsearchSpec}

theorem names_declaredVars :
    (declaredVars id spec role group).map (·.name)
      = varNames (spec.security.any Security.hasPassword) spec.tls role := by
  have hpassword : (passwordVars id spec.security).map (·.name)
      = if spec.security.any Security.hasPassword then ["ELASTIC_PASSWORD"] else [] := by
    unfold passwordVars
    cases spec.security with
    | none => rfl
    | some security => cases hhas : security.hasPassword <;> simp [hhas, EnvVar.fromSecret]
  have hrole : (roleVars id role group).map (·.name)
      = if role = .master then
          ["cluster.initial_master_nodes", "node.master", "node.data", "node.ingest"]
        else ["node.roles"] := by
    cases role <;> rfl
  simp only [declaredVars, varNames, List.map_append, hpassword, hrole]
  cases spec.tls <;> rfl

theorem env_eq_ok (hgroup : es.spec.nodes? role = some group) :
    env es role = .ok (sortedEnv (declaredVars (es.metadata.name.getD "") es.spec role group)) := by
  simp only [env, hgroup, declaredVars]

/-- The only secret among the variables is that of the password. -/
theorem mem_secrets_declaredVars {name : String}
    (h : name ∈ (declaredVars id spec role group).filterMap EnvVar.secret?) :
    ∃ security, spec.security = some security ∧ security.hasPassword = true
      ∧ name = security.passwordSource id := by
  have hrole : (roleVars id role group).filterMap EnvVar.secret? = [] := by cases role <;> rfl
  have htls : (if spec.tls then encryptionVars else []).filterMap EnvVar.secret? = [] := by
    cases spec.tls <;> rfl
  rw [declaredVars, List.filterMap_append, List.filterMap_append, List.filterMap_append, hrole,
    htls, List.append_nil, List.append_nil] at h
  have h : name ∈ (passwordVars id spec.security).filterMap EnvVar.secret? := h
  unfold passwordVars at h
  split at h
  · next security hsecurity =>
    split at h
    · next hpassword => exact ⟨security, hsecurity, hpassword, List.mem_singleton.1 h⟩
    · cases h
  · cases h

/-! ## §3. Volumes -/

/-- The name of a workload ends with its role, so it is no volume of another kind. -/
theorem workload_not_mem (id : String) (role : Role) :
    Naming.workload id role ∉ [certificateVolume, pluginVolume] := by
  have hends : ('-' :: role.word.toList) <:+ (Naming.workload id role).toList := by
    refine ⟨id.toList, ?_⟩
    show _ = (id ++ "-" ++ role.word).toList
    rw [String.toList_append, String.toList_append, List.append_assoc]
    rfl
  have hother : ∀ name ∈ [certificateVolume, pluginVolume],
      ¬ ('-' :: role.word.toList) <:+ name.toList := by
    cases role <;> decide
  exact fun hmem => hother _ hmem hends

/-- What can be mounted, whatever the data is kept on. -/
def mountable (spec : ElasticsearchSpec) (name : String) : List String :=
  (if spec.tls then [certificateVolume] else [])
    ++ (if spec.plugins.isEmpty then [] else [pluginVolume]) ++ [name]

theorem nodup_mountable (spec : ElasticsearchSpec) (id : String) (role : Role) :
    (mountable spec (Naming.workload id role)).Nodup := by
  have hname := workload_not_mem id role
  have hfixed : certificateVolume ≠ pluginVolume := by decide
  simp only [List.mem_cons, List.not_mem_nil, or_false, not_or] at hname
  unfold mountable
  split <;> split <;> simp [hfixed, Ne.symm hname.1, Ne.symm hname.2]

/-- A claimed disk stands in for the empty directory of the same name. -/
theorem names_volumes (spec : ElasticsearchSpec) (id name : String) (storage : Option Storage) :
    ((someUnlessEmpty (volumes spec id name storage)).getD []).map (·.name)
        ++ ((storage.map fun storage => [claim name storage]).getD []).map (·.name)
      = mountable spec name := by
  have hsome : (someUnlessEmpty (volumes spec id name storage)).getD []
      = volumes spec id name storage := by
    unfold someUnlessEmpty
    split
    · next hempty => exact (List.isEmpty_iff.1 hempty).symm
    · rfl
  rw [hsome, mountable, volumes]
  cases storage <;> cases spec.tls <;> cases spec.plugins.isEmpty <;> rfl

theorem mem_secrets_volumes {name : String} {storage : Option Storage} {secret : String}
    (h : secret ∈ ((someUnlessEmpty (volumes spec id name storage)).getD []).filterMap
      Volume.secret?) : spec.tls = true ∧ secret = Naming.certificateSecret id := by
  have hvolumes : secret ∈ (volumes spec id name storage).filterMap Volume.secret? := by
    unfold someUnlessEmpty at h
    split at h
    · cases h
    · exact h
  unfold volumes at hvolumes
  cases htls : spec.tls <;> cases hplugins : spec.plugins.isEmpty <;> cases storage <;>
    simp_all [Volume.secret?]

/-- What the main container mounts can be mounted. -/
theorem mem_mountable_of_mounts {name : String} {mount : VolumeMount}
    (h : mount ∈ mounts spec name) : mount.name ∈ mountable spec name := by
  unfold mountable
  rcases List.mem_append.1 h with h | h
  · rcases List.mem_cons.1 h with rfl | h
    · exact List.mem_append_right _ (List.mem_singleton.2 rfl)
    · split at h
      · next htls =>
        obtain rfl := List.mem_singleton.1 h
        simp [htls]
      · cases h
  · split at h
    · cases h
    · next hplugins =>
      obtain rfl := List.mem_singleton.1 h
      simp [hplugins]

/-- So can what the containers mount that run first. -/
theorem mem_mountable_of_init {name : String} {container : Container} {mount : VolumeMount}
    (hcontainer : container ∈ initContainers spec) (h : mount ∈ container.mounts.getD []) :
    mount.name ∈ mountable spec name := by
  unfold initContainers at hcontainer
  unfold mountable
  rcases List.mem_cons.1 hcontainer with rfl | hcontainer
  · cases h
  · split at hcontainer
    · cases hcontainer
    · next hplugins =>
      obtain rfl := List.mem_singleton.1 hcontainer
      obtain rfl := List.mem_singleton.1 h
      simp [hplugins]

/-- Only the main container has variables. -/
theorem env_of_init {container : Container} (h : container ∈ initContainers spec) :
    container.env = none := by
  unfold initContainers at h
  rcases List.mem_cons.1 h with rfl | h
  · rfl
  · split at h
    · cases h
    · obtain rfl := List.mem_singleton.1 h
      rfl

/-! ## §4. The workload of a role -/

/-- What the main container of a role has, wherever it is placed. -/
theorem exists_of_placed (pod : PodSpec) (container : Container) (placement : Option Placement) :
    ∃ main, (placed pod container placement).containers = [main] ∧ main.env = container.env
      ∧ main.mounts = container.mounts
      ∧ (placed pod container placement).initContainers = pod.initContainers
      ∧ (placed pod container placement).volumes = pod.volumes := by
  cases placement with
  | none => exact ⟨container, rfl, rfl, rfl, rfl, rfl⟩
  | some placement => exact ⟨_, rfl, rfl, rfl, rfl, rfl⟩

/-- The parts of the StatefulSet of a declared role, with its main container. -/
structure Assembled (spec : ElasticsearchSpec) (id : String) (role : Role) (group : NodeGroup)
    (built : StatefulSet) (main : Container) : Prop where
  name : built.metadata.name = some (Naming.workload id role)
  replicas : built.replicas = group.replicas
  selector : built.selector = .ofLabels (roleLabels id role)
  labels : built.template.labels = roleLabels id role
  claims : built.claims
    = group.storage.map fun storage => [claim (Naming.workload id role) storage]
  initContainers : built.template.spec.initContainers = some (initContainers spec)
  volumes : built.template.spec.volumes
    = someUnlessEmpty (volumes spec id (Naming.workload id role) group.storage)
  containers : built.template.spec.containers = [main]
  env : main.env = some (sortedEnv (declaredVars id spec role group))
  mounts : main.mounts = some (mounts spec (Naming.workload id role))

/-- **The StatefulSet of a declared role is built.** -/
theorem exists_assembled (howner : Owner.ofMetadata .elasticsearch es.metadata = .ok owner)
    (hgroup : es.spec.nodes? role = some group) :
    ∃ built main, statefulSet es role = .ok built
      ∧ Assembled es.spec owner.name role group built main := by
  have hid : es.metadata.name.getD "" = owner.name := by
    rw [(Owner.of_ofMetadata howner).2]
    rfl
  unfold statefulSet
  rw [howner, env_eq_ok hgroup, hid]
  simp only [hgroup]
  obtain ⟨main, hcontainers, henv, hmounts, hinit, hvolumes⟩ := exists_of_placed _ _ group.placement
  exact ⟨_, main, rfl, rfl, rfl, rfl, rfl, rfl, hinit, hvolumes, hcontainers, henv, hmounts⟩

namespace Assembled

variable {built : StatefulSet} {main : Container} (h : Assembled spec id role group built main)
include h

/-- What can be mounted does not depend on how the data is kept. -/
theorem volumeNames_eq : built.volumeNames = mountable spec (Naming.workload id role) := by
  rw [StatefulSet.volumeNames, h.volumes, h.claims]
  exact names_volumes spec id _ group.storage

theorem nodup_volumeNames : built.volumeNames.Nodup :=
  h.volumeNames_eq ▸ nodup_mountable spec id role

theorem mem_allContainers {container : Container}
    (hcontainer : container ∈ built.template.spec.allContainers) :
    container ∈ Elasticsearch.initContainers spec ∨ container = main := by
  rw [PodSpec.allContainers, h.initContainers, h.containers] at hcontainer
  exact (List.mem_append.1 hcontainer).imp_right List.mem_singleton.1

theorem mem_env {var : EnvVar} : var ∈ main.env.getD [] ↔ var ∈ declaredVars id spec role group := by
  rw [h.env]
  exact (perm_sortedEnv _).mem_iff

/-- Every mount finds its volume, and finds it once. -/
theorem count_mount {container : Container} {mount : VolumeMount}
    (hcontainer : container ∈ built.template.spec.allContainers)
    (hmount : mount ∈ container.mounts.getD []) : built.volumeNames.count mount.name = 1 := by
  refine List.count_eq_one_of_mem h.nodup_volumeNames (h.volumeNames_eq ▸ ?_)
  rcases h.mem_allContainers hcontainer with hinit | rfl
  · exact mem_mountable_of_init hinit hmount
  · rw [h.mounts] at hmount
    exact mem_mountable_of_mounts hmount

/-- Every variable has a name of its own, and they come in order. -/
theorem pairwise_env {container : Container}
    (hcontainer : container ∈ built.template.spec.allContainers) :
    ((container.env.getD []).map (·.name)).Pairwise (· < ·) := by
  rcases h.mem_allContainers hcontainer with hinit | rfl
  · rw [env_of_init hinit]
    exact List.Pairwise.nil
  · rw [h.env]
    refine pairwise_sortedEnv ?_
    rw [names_declaredVars]
    exact nodup_varNames _ _ role

/-- A secret that the pods refer to is that of the password or that of the certificate. -/
theorem of_mem_secrets {secret : String} (hsecret : secret ∈ built.template.spec.secrets) :
    (∃ security, spec.security = some security ∧ security.hasPassword = true
        ∧ secret = security.passwordSource id)
      ∨ spec.tls = true ∧ secret = Naming.certificateSecret id := by
  rw [PodSpec.secrets, List.mem_append, List.mem_flatMap, h.volumes] at hsecret
  rcases hsecret with ⟨container, hcontainer, hsecret⟩ | hsecret
  · rcases h.mem_allContainers hcontainer with hinit | rfl
    · rw [env_of_init hinit] at hsecret
      cases hsecret
    · rw [h.env] at hsecret
      exact Or.inl (mem_secrets_declaredVars ((((perm_sortedEnv _).filterMap _).mem_iff).1 hsecret))
  · exact Or.inr (mem_secrets_volumes hsecret)

end Assembled

end Elasticsearch

end Manifest

namespace Pass.Elasticsearch

open Convergence (Outcome converge ensureOnce)
open Management (Endpoint)
open Manifest (sortedEnv perm_sortedEnv pairwise_sortedEnv)
open Manifest.Elasticsearch
open Program

variable {es : LoggingOperator.Elasticsearch} {owner : Owner} {role : Role}

/-! ## §5. What is there by then -/

/-- A step brings this object to what is declared, maybe among others. -/
def Brings (es : LoggingOperator.Elasticsearch) (owner : Owner) (step : Step) (part : Part) :
    Prop :=
  ∃ parts, part ∈ parts ∧ ∀ generated p,
    quietly (takeStep es owner.ns generated step p) = bringAll es owner generated parts

/-- An earlier step of the plan than that of the role creates the secret once. -/
def CreatedBefore (es : LoggingOperator.Elasticsearch) (owner : Owner) (role : Role)
    (secret : String) : Prop :=
  ∃ earlier step between later part,
    es.spec.plan = earlier ++ step :: between ++ .roleReady role :: later
      ∧ Brings es owner step part ∧ part.goal owner = ⟨.secret, some owner.ns, secret, true⟩

/-- The names of the nodes of a workload, joined by commas: none, unless their
    number is positive. -/
def nodeNames (workload : String) (replicas : Int32) : String :=
  ",".intercalate ((List.range replicas.toInt.toNat).map fun i => s!"{workload}-{i}")

/-- What the workload of a role refers to is there. -/
structure Closed (es : LoggingOperator.Elasticsearch) (owner : Owner) (role : Role)
    (built : StatefulSet) : Prop where
  /-- Nothing that can be mounted shares its name. -/
  volumes_nodup : built.volumeNames.Nodup
  mounts_found : ∀ container ∈ built.template.spec.allContainers,
    ∀ mount ∈ container.mounts.getD [], built.volumeNames.count mount.name = 1
  /-- Names are compared character by character, which is the order of their bytes. -/
  env_increasing : ∀ container ∈ built.template.spec.allContainers,
    ((container.env.getD []).map (·.name)).Pairwise (· < ·)
  /-- A secret is the user's, or there once the role is set up. -/
  secrets_known : ∀ secret ∈ built.template.spec.secrets,
    (∃ security, es.spec.security = some security ∧ security.existingSecret = some secret)
      ∨ CreatedBefore es owner role secret
  /-- The nodes look for each other at the headless service of the master role,
      which is always set up. -/
  seeds_found : ∃ main seed routable headless,
    built.template.spec.containers = [main]
      ∧ EnvVar.literal "discovery.seed_hosts" seed ∈ main.env.getD []
      ∧ services es .master = .ok (routable, headless)
      ∧ headless.metadata.name = some seed ∧ headless.headless = true
      ∧ Step.roleReady .master ∈ es.spec.plan
      ∧ Brings es owner (.roleReady .master) (.headless .master)
  /-- The first masters are the nodes of the workload. -/
  masters_found : role = .master → ∃ main workload,
    built.template.spec.containers = [main] ∧ built.metadata.name = some workload
      ∧ EnvVar.literal "cluster.initial_master_nodes" (nodeNames workload built.replicas)
        ∈ main.env.getD []
      ∧ (built.replicas ≤ 0 → nodeNames workload built.replicas = "")
  /-- The pods are those that the workload and its services select. -/
  selected : ∃ routable headless, services es role = .ok (routable, headless)
    ∧ built.selector = { matchLabels := some built.template.labels }
    ∧ routable.selector = built.template.labels ∧ headless.selector = built.template.labels

theorem nodeNames_of_nonpos {workload : String} {replicas : Int32} (h : replicas ≤ 0) :
    nodeNames workload replicas = "" := by
  have hnone : replicas.toInt.toNat = 0 := Int.toNat_of_nonpos (Int32.le_iff_toInt_le.1 h)
  rw [nodeNames, hnone]
  rfl

/-- The roles of a plan are those that are declared. -/
theorem roleReady_mem_plan : Step.roleReady role ∈ es.spec.plan ↔ role ∈ es.spec.roles := by
  have hsecurity : Step.roleReady role ∉ es.spec.securitySteps := by
    intro h
    unfold ElasticsearchSpec.securitySteps at h
    split at h
    · split at h
      · cases List.mem_singleton.1 h
      · cases h
    · cases h
  constructor
  · intro h
    rcases List.mem_append.1 h with h | h
    · rcases List.mem_append.1 h with h | h
      · rcases List.mem_append.1 h with h | h
        · exact absurd h hsecurity
        · simpa using h
      · split at h <;> simp at h
    · cases List.mem_singleton.1 h
  · intro h
    exact List.mem_append_left _ (List.mem_append_left _
      (List.mem_append_right _ (List.mem_map_of_mem h)))

section Owned

variable (howner : Owner.ofMetadata .elasticsearch es.metadata = .ok owner)
include howner

/-- The secrets that are declared are set up before any role. -/
theorem createdBefore (part : Part) {secret : String}
    (hpart : part ∈ secretParts (es.spec.security.any Security.needsPassword) es.spec.tls)
    (hgoal : part.goal owner = ⟨.secret, some owner.ns, secret, true⟩)
    (hrole : (es.spec.nodes? role).isSome = true) : CreatedBefore es owner role secret := by
  obtain ⟨between, later, hroles⟩ := List.append_of_mem (ElasticsearchSpec.mem_roles.2 hrole)
  unfold ElasticsearchSpec.tls at hpart
  cases hsecurity : es.spec.security with
  | none =>
    rw [hsecurity] at hpart
    cases hpart
  | some security =>
    rw [hsecurity] at hpart
    dsimp only [Option.any_some] at hpart
    -- A step without secrets would not be taken.
    have hflags : (security.tls || security.needsPassword) = true := by
      cases htls : security.tls with
      | true => rfl
      | false =>
        cases hneeds : security.needsPassword with
        | true => rfl
        | false =>
          rw [htls, hneeds] at hpart
          cases hpart
    have hsteps : es.spec.securitySteps = [.securitySetup security.tls security.needsPassword] := by
      rw [ElasticsearchSpec.securitySteps, hsecurity]
      dsimp only
      rw [if_pos hflags]
    refine ⟨[], .securitySetup security.tls security.needsPassword, between.map .roleReady,
      later.map .roleReady
        ++ .healthProbe :: (if es.spec.integration?.isSome then [.tokenIssue] else [])
        ++ [.statusWritten], part, ?_, ⟨_, hpart, fun generated p => ?_⟩, hgoal⟩
    · rw [ElasticsearchSpec.plan, hsteps, hroles]
      simp only [List.map_append, List.map_cons, List.append_assoc, List.cons_append,
        List.nil_append]
    · rw [← setUpSecurity_eq_bringAll howner]
      simp only [quietly, takeStep, bind_eq, pure_eq, Program.bind_assoc, done_bind]

theorem brings_roleReady {part : Part} (hrole : (es.spec.nodes? role).isSome = true)
    (hpart : part ∈ roleParts role) : Brings es owner (.roleReady role) part := by
  refine ⟨roleParts role, hpart, fun generated p => ?_⟩
  rw [← setUpRole_eq_bringAll howner hrole]
  simp only [quietly, takeStep, bind_eq, pure_eq, Program.bind_assoc, done_bind]

/-- The services of a role select the pods of the role. -/
theorem exists_services (role : Role) :
    ∃ routable headless, services es role = .ok (routable, headless)
      ∧ routable.selector = roleLabels owner.name role
      ∧ headless.selector = roleLabels owner.name role
      ∧ headless.metadata.name = some (Naming.headless owner.name role)
      ∧ headless.headless = true := by
  unfold services
  rw [howner]
  exact ⟨_, _, rfl, rfl, rfl, rfl, rfl⟩

/-- A secret of the workload is the user's, or created once the role is set up. -/
theorem secret_known {group : NodeGroup} {built : StatefulSet} {main : Container}
    (hbuilt : Assembled es.spec owner.name role group built main)
    (hrole : (es.spec.nodes? role).isSome = true) {secret : String}
    (hsecret : secret ∈ built.template.spec.secrets) :
    (∃ security, es.spec.security = some security ∧ security.existingSecret = some secret)
      ∨ CreatedBefore es owner role secret := by
  rcases hbuilt.of_mem_secrets hsecret with ⟨security, hsecurity, hhas, rfl⟩ | ⟨htls, rfl⟩
  · -- The password is the user's, or it is generated.
    cases hexisting : security.existingSecret with
    | some existing =>
      exact Or.inl ⟨security, hsecurity, by rw [Security.passwordSource, hexisting]; rfl⟩
    | none =>
      have hneeds : security.needsPassword = true := by
        rw [Security.hasPassword, hexisting, Option.isSome_none, Bool.or_false] at hhas
        rw [Security.needsPassword, hhas, hexisting]
        rfl
      refine Or.inr (createdBefore howner .password ?_ ?_ hrole)
      · rw [hsecurity, Option.any_some, hneeds]
        exact List.mem_append_left _ (List.mem_singleton.2 rfl)
      · rw [Security.passwordSource, hexisting]
        rfl
  · refine Or.inr (createdBefore howner .certificate ?_ rfl hrole)
    rw [secretParts, htls]
    exact List.mem_append_right _ (List.mem_singleton.2 rfl)

/-- **The workload of a declared role refers to what there is.** -/
theorem exists_closed (hrole : (es.spec.nodes? role).isSome = true) :
    ∃ built, statefulSet es role = .ok built ∧ Closed es owner role built := by
  obtain ⟨group, hgroup⟩ := Option.isSome_iff_exists.1 hrole
  obtain ⟨built, main, hmade, hbuilt⟩ := exists_assembled howner hgroup
  refine ⟨built, hmade, hbuilt.nodup_volumeNames, fun _ hc _ => hbuilt.count_mount hc,
    fun _ => hbuilt.pairwise_env, fun _ => secret_known howner hbuilt hrole, ?_,
    fun hmaster => ?_, ?_⟩
  case refine_1 =>
    obtain ⟨routable, headless, hservices, -, -, hheadless, honly⟩ := exists_services howner .master
    refine ⟨main, Naming.headless owner.name .master, routable, headless, hbuilt.containers,
      hbuilt.mem_env.2 (by simp [declaredVars]), hservices, hheadless, honly, ?_,
      brings_roleReady howner rfl (by simp [roleParts])⟩
    exact roleReady_mem_plan.2 (ElasticsearchSpec.mem_roles.2 rfl)
  case refine_2 =>
    subst hmaster
    refine ⟨main, _, hbuilt.containers, hbuilt.name, hbuilt.mem_env.2 ?_, nodeNames_of_nonpos⟩
    rw [hbuilt.replicas]
    exact List.mem_append_left _ (List.mem_append_right _ (List.mem_cons_self ..))
  case refine_3 =>
    obtain ⟨routable, headless, hservices, hroutable, hheadless, -⟩ := exists_services howner role
    exact ⟨routable, headless, hservices, by rw [hbuilt.selector, hbuilt.labels]; rfl,
      hroutable.trans hbuilt.labels.symm, hheadless.trans hbuilt.labels.symm⟩

end Owned

/-! ## §6. What a pass is led to -/

/-- However its calls are answered, a part of a pass does not fail for an object that
    cannot be built. -/
abbrev Buildable {α : Type} (p : Pass α) : Prop :=
  p.Does (fun _ => True) fun r => ∀ e, r ≠ .error (.build e)

section Buildable

variable {α β : Type}

theorem buildable_done (a : α) : Buildable (.done a : Pass α) :=
  does_done fun _ h => nomatch h

theorem buildable_fail {e : PassError} (h : ∀ e', e ≠ .build e') :
    Buildable (.fail e : Pass α) :=
  does_fail fun e' he => h e' (Except.error.inj he)

theorem Buildable.bind {p : Pass α} {f : α → Pass β} (hp : Buildable p)
    (hf : ∀ a, Buildable (f a)) : Buildable (p.bind f) :=
  Does.bind hp (fun a _ => hf a) fun _ he e' h =>
    he e' (congrArg Except.error (Except.error.inj h))

theorem buildable_ofBuild {a : α} {built : Except BuildError α} (h : built = .ok a) :
    Buildable (ofBuild built) := by
  subst h
  exact buildable_done a

/-- Errors of the object store are no errors of a builder. -/
theorem buildable_converge {kind : Kind} (desired : Json) :
    Buildable (ofStore (converge kind desired)) := by
  have hconverge : Keeps (fun _ => True) (converge kind desired) :=
    (Convergence.does_converge fun _ _ _ => trivial)
  exact Does.handle hconverge (fun _ _ _ h => nomatch h) fun _ _ =>
    buildable_fail fun _ h => nomatch h

theorem buildable_ensureOnce {kind : Kind} {name : String} {ns : Option String}
    {build : Pass Json} (h : Buildable build) :
    Buildable (ensureOnce PassError.store kind name ns build) := by
  refine does_store (fun _ => trivial) fun answer => ?_
  split
  · exact buildable_fail fun _ h => nomatch h
  · exact buildable_done _
  · refine h.bind fun desired => ?_
    unfold Convergence.createOnce
    split
    · exact buildable_fail fun _ h => nomatch h
    · refine does_store (fun _ => trivial) fun answer => ?_
      split
      · exact buildable_done _
      · exact buildable_done _
      · exact buildable_fail fun _ h => nomatch h

end Buildable

theorem buildable_endpoint (es : LoggingOperator.Elasticsearch) (ns : String) :
    Buildable (endpoint es ns) := by
  unfold endpoint
  split
  · exact buildable_done _
  · refine does_store (fun _ => trivial) fun answer => ?_
    split <;> exact buildable_done _

theorem buildable_probe (found : Option Endpoint) : Buildable (probe found) := by
  cases found with
  | none => exact buildable_done _
  | some endpoint =>
    refine does_manage (fun _ => trivial) fun answer => ?_
    split <;> exact buildable_done _

theorem buildable_issueToken (endpoint : Endpoint) (token : Management.TokenId) :
    Buildable (issueToken endpoint token) := by
  have hagain : Keeps (fun _ => True)
      ((callManagement endpoint (.deleteToken token)).bind fun _ =>
        callManagement endpoint (.createToken token)) :=
    (keeps_callManagement fun _ => trivial).bind fun _ => keeps_callManagement fun _ => trivial
  refine does_manage (fun _ => trivial) fun answer => ?_
  split
  · exact buildable_done _
  · split
    · exact Does.handle hagain (fun _ _ _ h => nomatch h) fun _ _ =>
        buildable_fail fun _ h => nomatch h
    · exact buildable_fail fun _ h => nomatch h

theorem buildable_writeStatus (kind : Kind) (declared status : Json) :
    Buildable (writeStatus kind declared status) := by
  refine does_store (fun _ => trivial) fun answer => ?_
  split
  · exact buildable_done _
  · split
    · exact buildable_done _
    · exact buildable_fail fun _ h => nomatch h

section Owned

variable {generated : String} (howner : Owner.ofMetadata .elasticsearch es.metadata = .ok owner)
include howner

theorem buildable_setUpSecurity (tls password : Bool) :
    Buildable (setUpSecurity es owner.ns generated tls password) := by
  refine setUpSecurity_induction buildable_done (fun hf => Buildable.bind ?_ hf)
    (fun hf => Buildable.bind ?_ hf) tls password
  · exact buildable_ensureOnce (buildable_ofBuild (by rw [passwordSecret_eq_ok howner]; rfl))
  · exact buildable_ensureOnce (buildable_ofBuild (by rw [certificateSecret_eq_ok howner]; rfl))

theorem buildable_setUpRole (hrole : (es.spec.nodes? role).isSome = true) :
    Buildable (setUpRole es role) := by
  obtain ⟨workload, hworkload, -⟩ := statefulSet_eq_ok howner hrole
  obtain ⟨routable, headless, hservices, -⟩ := services_eq_ok howner role
  simp only [setUpRole, bind_eq, pure_eq]
  refine (buildable_ofBuild hworkload).bind fun _ => ?_
  refine (buildable_converge _).bind fun _ => ?_
  refine (buildable_ofBuild hservices).bind fun _ => ?_
  exact (buildable_converge _).bind fun _ => (buildable_converge _).bind fun _ => buildable_done _

theorem buildable_setUpToken (p : Progress) : Buildable (setUpToken es owner.ns p) := by
  unfold setUpToken
  split
  · next endpoint integration _ _ _ =>
    have hensure : Buildable (ensureToken es owner.ns endpoint integration) :=
      buildable_ensureOnce ((buildable_issueToken _ _).bind fun _ =>
        buildable_ofBuild (by rw [tokenSecret_eq_ok howner]; rfl))
    refine (hensure.bind fun _ => buildable_done _).handle (fun _ _ _ h => nomatch h)
      fun e he => ?_
    split
    · exact buildable_done _
    · exact buildable_fail fun e' h => he e' (congrArg Except.error h)
  · exact buildable_done _

/-- Every step of the plan is one whose objects can be built. -/
theorem buildable_takeStep {step : Step} (hstep : step ∈ es.spec.plan) (p : Progress) :
    Buildable (takeStep es owner.ns generated step p) := by
  cases step with
  | securitySetup tls password =>
    exact (buildable_setUpSecurity howner tls password).bind fun _ => buildable_done _
  | roleReady role =>
    have hrole := ElasticsearchSpec.mem_roles.1 (roleReady_mem_plan.1 hstep)
    exact (buildable_setUpRole howner hrole).bind fun _ => buildable_done _
  | healthProbe =>
    exact (buildable_endpoint es owner.ns).bind fun found => (buildable_probe found).bind fun _ =>
      buildable_done _
  | tokenIssue => exact (buildable_setUpToken howner p).bind fun _ => buildable_done _
  | statusWritten => exact (buildable_writeStatus _ _ _).bind fun _ => buildable_done _

theorem buildable_takeSteps {steps : List Step} (hsteps : ∀ step ∈ steps, step ∈ es.spec.plan)
    (p : Progress) : Buildable (takeSteps es owner.ns generated steps p) := by
  induction steps generalizing p with
  | nil => exact buildable_done p
  | cons step rest ih =>
    obtain ⟨hstep, hrest⟩ := List.forall_mem_cons.1 hsteps
    exact (buildable_takeStep howner hstep _).bind fun p => ih hrest p

/-- **A pass over a declaration with an identity builds whatever it is led to.** -/
theorem buildable_run (generated : String) : Buildable (run es generated) := by
  have hnamespace : namespaceOf .elasticsearch es.metadata = .done owner.ns := by
    rw [namespaceOf, (Owner.of_ofMetadata howner).1]
  rw [run, hnamespace]
  exact (buildable_takeSteps howner (fun _ h => h) _).bind fun _ => buildable_done _

end Owned

/-! ## §7. The theorem -/

/-- **What a workload refers to is there.**  For every role that is declared a
    workload is built, and whatever it refers to is beside it or set up before.  A
    role that is not declared has no workload, and no plan asks for it: no pass ends
    for an object that cannot be built. -/
theorem workloads_closed (es : LoggingOperator.Elasticsearch) {ns name uid : String}
    (hns : es.metadata.ns = some ns) (hname : es.metadata.name = some name)
    (huid : es.metadata.uid = some uid) :
    ∃ owner, Owner.ofMetadata .elasticsearch es.metadata = .ok owner
      ∧ owner.ns = ns ∧ owner.name = name
      ∧ (∀ role, (es.spec.nodes? role).isSome = true →
        ∃ built, statefulSet es role = .ok built ∧ Closed es owner role built)
      ∧ (∀ role, es.spec.nodes? role = none →
        statefulSet es role = .error (.roleNotDeclared role)
          ∧ Step.roleReady role ∉ es.spec.plan)
      ∧ ∀ generated events r, Traces (run es generated) events r →
        ∀ e, r ≠ .error (.build e) := by
  obtain ⟨owner, howner, hownerNs, hownerName⟩ := Owner.ofMetadata_eq_ok hns hname huid
  refine ⟨owner, howner, hownerNs, hownerName, fun role hrole => exists_closed howner hrole,
    fun role hrole => ⟨?_, fun hplanned => ?_⟩, fun generated events r htraces => ?_⟩
  · unfold statefulSet
    rw [howner]
    simp only [hrole]
    rfl
  · have hdeclared := ElasticsearchSpec.mem_roles.1 (roleReady_mem_plan.1 hplanned)
    rw [hrole] at hdeclared
    cases hdeclared
  · exact ((buildable_run howner generated).traces htraces).2

/-- A search cluster with every option: encrypted, with plugins and a password to
    generate, data on claimed disks, and no client nodes. -/
def equipped : LoggingOperator.Elasticsearch where
  metadata := { ns := some "ns", name := some "logs", uid := some "7f3a" }
  spec := {
    clusterName := "logs"
    version := "8.10.0"
    security := some { tls := true, generatePassword := true }
    master := { replicas := 3 }
    data := some { storage := some {} }
    ingestion := some { replicas := -1, placement := some {} }
    plugins := ["analysis-icu"] }

/-- Of such a cluster three workloads are built, and none for client nodes. -/
theorem workloads_closed_equipped :
    ∃ owner, Owner.ofMetadata .elasticsearch equipped.metadata = .ok owner
      ∧ (∀ role ∈ [Role.master, .data, .ingestion],
        ∃ built, statefulSet equipped role = .ok built ∧ Closed equipped owner role built)
      ∧ statefulSet equipped .client = .error (.roleNotDeclared .client)
      ∧ ∀ generated events r, Traces (run equipped generated) events r →
        ∀ e, r ≠ .error (.build e) := by
  obtain ⟨owner, howner, -, -, hdeclared, hundeclared, hruns⟩ :=
    workloads_closed equipped rfl rfl rfl
  refine ⟨owner, howner, fun role hrole => hdeclared role ?_, (hundeclared .client rfl).1, hruns⟩
  revert role
  decide

end Pass.Elasticsearch

end LoggingOperator
