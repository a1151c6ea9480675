/-
  LoggingOperator.Proofs.Pass.Apart — CLUSTERS DO NOT STEP ON EACH OTHER.

  A pass over a search cluster writes its own objects and nothing else, each at
  most once (`writes_run`).  Two clusters that differ in their namespace or
  their name have no object in common, whatever they are called
  (`disjoint_keys`), and their services do not select each other's pods.

  So it does not matter which of two clusters is looked after first
  (`clusters_apart`).  What a pass makes of an object depends on the object
  alone (`comparable_run`), and the object is as it was when the pass over the
  other cluster is done (`object?_run`).
-/
import LoggingOperator.Proofs.Pass.SetUp
import Mathlib.Data.List.Flatten
import Mathlib.Data.List.Nodup

namespace LoggingOperator

open Convergence (comparable)
open Program

namespace Pass.Elasticsearch

open Manifest.Elasticsearch

variable {es es' : LoggingOperator.Elasticsearch} {owner : Owner} {generated : String}

/-! ## §1. The keys of a cluster -/

/-- The secret of the token, if one is asked for. -/
def tokenParts (es : LoggingOperator.Elasticsearch) : List Part :=
  if es.spec.integration?.isSome then [.token] else []

/-- What becomes of the objects under these keys depends on what the management API
    answers: the secret of the token, and the declaration with its status. -/
def toldKeys (es : LoggingOperator.Elasticsearch) : List StoreKey :=
  match Owner.ofMetadata .elasticsearch es.metadata with
  | .error _ => []
  | .ok owner => (tokenParts es).map (fun part => (part.goal owner).key)
    ++ [StoreKey.of .elasticsearch (some owner.ns) owner.name]

/-- Under which keys a pass may write, in this order: the objects that it sets
    up, the secret of the token, and last the status of the declaration.  Without
    an identity there are none. -/
def keys (es : LoggingOperator.Elasticsearch) : List StoreKey :=
  match Owner.ofMetadata .elasticsearch es.metadata with
  | .error _ => []
  | .ok owner => (setUpParts es).map (fun part => (part.goal owner).key) ++ toldKeys es

section Owned

variable (howner : Owner.ofMetadata .elasticsearch es.metadata = .ok owner)
include howner

theorem toldKeys_eq : toldKeys es = (tokenParts es).map (fun part => (part.goal owner).key)
    ++ [StoreKey.of .elasticsearch (some owner.ns) owner.name] := by
  rw [toldKeys, howner]

theorem keys_eq :
    keys es = (setUpParts es).map (fun part => (part.goal owner).key) ++ toldKeys es := by
  rw [keys, howner]

end Owned

/-- A key of a cluster is that of an object of the cluster or of its declaration. -/
theorem exists_of_mem_keys {key : StoreKey} (h : key ∈ keys es) :
    ∃ owner, Owner.ofMetadata .elasticsearch es.metadata = .ok owner
      ∧ ((∃ part : Part, key = (part.goal owner).key)
        ∨ key = StoreKey.of .elasticsearch (some owner.ns) owner.name) := by
  cases howner : Owner.ofMetadata .elasticsearch es.metadata with
  | error e =>
    rw [keys, howner] at h
    cases h
  | ok owner =>
    refine ⟨owner, rfl, ?_⟩
    rw [keys_eq howner, toldKeys_eq howner, ← List.append_assoc, ← List.map_append] at h
    rcases List.mem_append.1 h with h | h
    · obtain ⟨part, -, rfl⟩ := List.mem_map.1 h
      exact Or.inl ⟨part, rfl⟩
    · exact Or.inr (List.mem_singleton.1 h)

/-- No object is asked for twice. -/
theorem nodup_parts (es : LoggingOperator.Elasticsearch) :
    (setUpParts es ++ tokenParts es).Nodup := by
  have hsecrets : ∀ password tls : Bool,
      (secretParts password tls).Sublist [.password, .certificate] := by decide
  have htoken : (tokenParts es).Sublist [.token] := by
    unfold tokenParts
    split
    · exact List.Sublist.refl _
    · exact List.nil_sublist _
  have hroles : (([.data, .ingestion, .client].filter
      fun role => (es.spec.nodes? role).isSome).flatMap roleParts).Sublist
        ([.data, .ingestion, .client].flatMap roleParts) :=
    List.filter_sublist.flatMap roleParts
  have hall : (setUpParts es ++ tokenParts es).Sublist
      ([.password, .certificate] ++ roleParts .master
        ++ [.data, .ingestion, .client].flatMap roleParts ++ [.token]) :=
    (((hsecrets _ _).append (List.Sublist.refl _)).append hroles).append htoken
  exact hall.nodup (by decide)

/-- **All keys of a pass are different.** -/
theorem nodup_keys (es : LoggingOperator.Elasticsearch) : (keys es).Nodup := by
  cases howner : Owner.ofMetadata .elasticsearch es.metadata with
  | error e =>
    rw [keys, howner]
    exact List.nodup_nil
  | ok owner =>
    rw [keys_eq howner, toldKeys_eq howner, ← List.append_assoc, ← List.map_append]
    have hparts : ((setUpParts es ++ tokenParts es).map fun part => (part.goal owner).key).Nodup :=
      (nodup_parts es).map fun _ _ => Part.key_inj
    refine hparts.append (List.nodup_singleton _) ?_
    intro key hkey hown
    obtain ⟨part, -, rfl⟩ := List.mem_map.1 hkey
    exact part.key_ne_own owner _ _ (List.mem_singleton.1 hown)

/-- **Clusters of different names, or in different namespaces, share no key.** -/
theorem disjoint_keys
    (hapart : (es.metadata.ns, es.metadata.name) ≠ (es'.metadata.ns, es'.metadata.name)) :
    (keys es).Disjoint (keys es') := by
  intro key hkey hkey'
  obtain ⟨owner, howner, hkey⟩ := exists_of_mem_keys hkey
  obtain ⟨owner', howner', hkey'⟩ := exists_of_mem_keys hkey'
  obtain ⟨hns, hname⟩ := Owner.of_ofMetadata howner
  obtain ⟨hns', hname'⟩ := Owner.of_ofMetadata howner'
  suffices h : owner.ns = owner'.ns ∧ owner.name = owner'.name by
    refine hapart ?_
    rw [hns, hns', hname, hname', h.1, h.2]
  -- No object has the key of a declaration.
  rcases hkey with ⟨part, rfl⟩ | rfl
  · rcases hkey' with ⟨part', hsame⟩ | hsame
    · obtain ⟨hns, hname, -⟩ := Part.of_key_eq hsame
      exact ⟨hns, hname⟩
    · exact absurd hsame (part.key_ne_own owner _ _)
  · rcases hkey' with ⟨part', hsame⟩ | hsame
    · exact absurd hsame.symm (part'.key_ne_own owner' _ _)
    · exact ⟨congrArg StoreKey.ns hsame, congrArg StoreKey.name hsame⟩

/-! ## §2. What a pass writes -/

/-- A secret that cannot be generated is not written. -/
theorem writes_ensureSecret_of_error {built : Except BuildError Secret} {e : BuildError}
    (h : built = .error e) (name ns : String) :
    Writes [] (ensureSecret name ns (ofBuild (built.map Secret.toJson))) := by
  subst h
  refine writes_get fun answer => ?_
  cases Convergence.stored? answer with
  | error e => exact writes_fail _ _
  | ok stored =>
    cases stored with
    | some _ => exact writes_done _
    | none => exact writes_fail _ _

section Unowned

variable {e : BuildError} (hunowned : Owner.ofMetadata .elasticsearch es.metadata = .error e)
  (ns : String)
include hunowned

theorem writes_setUpSecurity_unowned (tls password : Bool) :
    Writes [] (setUpSecurity es ns generated tls password) := by
  have hpassword : passwordSecret es generated = .error e := by
    rw [passwordSecret, hunowned]
    rfl
  have hcertificate : certificateSecret es = .error e := by
    rw [certificateSecret, hunowned]
    rfl
  exact setUpSecurity_induction (P := Writes []) writes_done
    (writes_ensureSecret_of_error hpassword _ ns).bind
    (writes_ensureSecret_of_error hcertificate _ ns).bind tls password

/-- A declaration without an identity sets up nothing, and nothing comes after. -/
theorem writes_setUp_unowned {β : Type} (p : Progress) (f : Progress → Pass β) :
    Writes [] ((takeSteps es ns generated (setUpSteps es) p).bind f) := by
  have hsecurity : Writes [] (takeSteps es ns generated es.spec.securitySteps p) :=
    securitySteps_induction (P := Writes []) writes_done
      (fun tls password _ hf => (writes_setUpSecurity_unowned hunowned ns tls password).bind hf) p
  rw [setUpSteps, takeSteps_append, Program.bind_assoc]
  refine hsecurity.bind fun p => ?_
  rw [takeSteps_roles_unowned hunowned]
  exact writes_fail _ _

end Unowned

/-- Looking for the cluster writes nothing. -/
theorem writes_endpoint (es : LoggingOperator.Elasticsearch) (ns : String) :
    Writes [] (endpoint es ns) :=
  writes_of_silent fun _ _ h => (traces_endpoint h).1.writeCalls

theorem writes_probe (found : Option Management.Endpoint) : Writes [] (probe found) := by
  refine writes_of_silent fun events r h => ?_
  obtain ⟨told, -, hprobes⟩ := traces_probe h
  exact hprobes.writeCalls

section Owned

variable (howner : Owner.ofMetadata .elasticsearch es.metadata = .ok owner)
include howner

/-- The token phase writes the secret of the token, if it writes. -/
theorem Token.targets_sublist {found : Option Management.Endpoint} {health : Health}
    {events : List Event} (h : Token es owner.ns found health events) :
    (targets events).Sublist ((tokenParts es).map fun part => (part.goal owner).key) := by
  have hwrites := h.writeCalls
  cases h with
  | waits _ => exact List.nil_sublist _
  | asks _ _ declared _ =>
    rw [tokenParts, declared, Option.isSome_some, if_pos rfl, targets]
    generalize Program.writeCalls events = calls at hwrites
    cases hwrites with
    | none => exact List.nil_sublist _
    | @created object named placed =>
      have htarget : (StoreCall.create .secret object).target?
          = some (Part.token.goal owner).key := by
        show (object.name.toOption.map fun name => StoreKey.of .secret object.namespace? name) = _
        rw [named, placed, id_eq howner]
        rfl
      rw [List.filterMap_cons, htarget]
      exact List.Sublist.refl _

/-- The status of a declaration is written under its own key. -/
theorem targets_lastCall (told : Health × Option Int32) (answer : Except StoreError Json) :
    targets [lastCall es told answer]
      = [StoreKey.of .elasticsearch (some owner.ns) owner.name] := by
  obtain ⟨hns, hname⟩ := Owner.of_ofMetadata howner
  have htarget : ∀ status : Json,
      (StoreCall.replaceStatus .elasticsearch (es.toJson.set "status" status)).target?
        = some (StoreKey.of .elasticsearch (some owner.ns) owner.name) := by
    intro status
    have hsent : (es.toJson.set "status" status).name = .ok owner.name := name_sent es status hname
    have hplaced : (es.toJson.set "status" status).namespace? = some owner.ns := by
      exact namespace?_sent es status hns
    show ((es.toJson.set "status" status).name.toOption.map fun name =>
      StoreKey.of .elasticsearch (es.toJson.set "status" status).namespace? name) = _
    rw [hsent, hplaced]
    rfl
  show [_].filterMap StoreCall.target? = _
  rw [List.filterMap_cons, htarget]
  rfl

/-- From the probe on, a pass writes the secret of the token and the status. -/
theorem writes_finish (p : Progress) (found : Option Management.Endpoint) :
    Writes (toldKeys es) (finish es owner.ns generated p found) := by
  rw [toldKeys_eq howner]
  refine (writes_probe found).bind fun told => ?_
  intro events r h
  obtain ⟨token, last, rfl, htoken, hlast⟩ := traces_closing (Owner.of_ofMetadata howner).1 h
  rw [targets_append]
  refine (Token.targets_sublist howner htoken).append ?_
  rcases hlast with ⟨rfl, -⟩ | ⟨answer, rfl, -⟩
  · exact List.nil_sublist _
  · rw [targets_lastCall howner]

/-- What comes after the set-up. -/
theorem writes_rest (p : Progress) :
    Writes (toldKeys es) ((endpoint es owner.ns).bind (finish es owner.ns generated p)) :=
  (writes_endpoint es owner.ns).bind fun found => writes_finish howner p found

end Owned

/-- **A pass writes under its own keys**, each at most once, however its calls are
    answered. -/
theorem writes_run (es : LoggingOperator.Elasticsearch) (generated : String) :
    Writes (keys es) (run es generated) := by
  cases hns : es.metadata.ns with
  | none =>
    have hrun : ∃ e, run es generated = .fail e := by
      rw [run, namespaceOf, hns]
      exact ⟨_, rfl⟩
    obtain ⟨e, hrun⟩ := hrun
    rw [hrun]
    exact writes_fail _ e
  | some ns =>
    rw [run_eq_phases hns]
    cases howner : Owner.ofMetadata .elasticsearch es.metadata with
    | error e => exact (writes_setUp_unowned howner ns {} _).mono (List.nil_sublist _)
    | ok owner =>
      cases hns.symm.trans (Owner.of_ofMetadata howner).1
      rw [keys_eq howner]
      exact (writes_setUp howner {}).bind (writes_rest howner)

/-! ## §3. What becomes of the objects -/

/-- What is not among the keys of a cluster stays as it is. -/
theorem object?_run {key : StoreKey} (hkey : key ∉ keys es) (generated : String) (σ : Script)
    (s : Store) : ((run es generated).course σ s).store.object? key = s.object? key :=
  (writes_run es generated).object?_course hkey σ s

section Owned

variable (howner : Owner.ofMetadata .elasticsearch es.metadata = .ok owner)
  {σ σ' : Script} (hσ : σ.Quiet) (hσ' : σ'.Quiet) {s s' : Store} {part : Part}
include howner hσ

/-- What was set up stays as it is for the rest of the pass. -/
theorem object?_run_of_setUp (hpart : part ∈ setUpParts es) :
    ((run es generated).course σ s).store.object? (part.goal owner).key
      = ((takeSteps es owner.ns generated (setUpSteps es) {}).course σ s).store.object?
        (part.goal owner).key := by
  obtain ⟨events, p, t, hcourse, -⟩ := settled_setUp howner generated hσ s
  rw [run_eq_phases (Owner.of_ofMetadata howner).1, course_bind_of_ok hcourse, hcourse]
  have hnodup := nodup_keys es
  rw [keys_eq howner] at hnodup
  have hrest : (part.goal owner).key ∉ toldKeys es := fun h =>
    List.disjoint_of_nodup_append hnodup (List.mem_map_of_mem hpart) h
  exact (writes_rest howner p).object?_course hrest _ t

include hσ' in
/-- **What a pass makes of an object depends on the object alone**: not on the other
    objects, and not on what the management API answers. -/
theorem comparable_run (hpart : part ∈ setUpParts es)
    (hsame : s'.object? (part.goal owner).key = s.object? (part.goal owner).key)
    (hcanonical : ∀ object, s.object? (part.goal owner).key = some object → object.Canonical) :
    (((run es generated).course σ s).store.object? (part.goal owner).key).map
        (comparable part.kind)
      = (((run es generated).course σ' s').store.object? (part.goal owner).key).map
        (comparable part.kind) := by
  rw [object?_run_of_setUp howner hσ hpart, object?_run_of_setUp howner hσ' hpart]
  have hplan := sound_setUpPlan howner generated
  obtain ⟨_, _, t, hcourse, hadvances, hsettled⟩ := settled_setUp howner generated hσ s
  obtain ⟨_, _, t', hcourse', hadvances', hsettled'⟩ := settled_setUp howner generated hσ' s'
  rw [hcourse, hcourse']
  have hreached := hadvances.reached hplan (.refl _ _ s)
  have hreached' := hadvances'.reached hplan (.refl _ _ s')
  rcases hreached.same_or_written_of_same hplan hsettled hreached' hsettled'
    (part.key_ne_own owner _ _) hsame with
      hsame | ⟨g, d, d', after, after', aim, aim', hkey, -, hafter, hafter', made, made'⟩
  · exact congrArg _ hsame.symm
  · -- Both were made of the same object by writes of the same thing.
    obtain ⟨part₁, rfl, -, hwanted⟩ := aim
    obtain ⟨part₂, hgoal, -, hwanted'⟩ := aim'
    obtain rfl : part₁ = part := Part.key_inj hkey
    obtain rfl : part₂ = part₁ := Part.key_inj (congrArg Goal.key hgoal)
    cases hwanted.symm.trans hwanted'
    rw [hafter, hafter', Option.map_some, Option.map_some, ← Part.kind_goal owner]
    exact congrArg some
      (made.comparable_eq made' (generated_wanted howner hwanted).canonical hcanonical)

end Owned

/-- A key of a cluster, but for those that the management API decides on, is that of
    an object that is set up. -/
theorem exists_setUp_of_mem_keys {key : StoreKey} (h : key ∈ keys es) (htold : key ∉ toldKeys es) :
    ∃ owner, Owner.ofMetadata .elasticsearch es.metadata = .ok owner
      ∧ ∃ part ∈ setUpParts es, key = (part.goal owner).key := by
  obtain ⟨owner, howner, -⟩ := exists_of_mem_keys h
  rw [keys_eq howner] at h
  rcases List.mem_append.1 h with h | h
  · obtain ⟨part, hpart, rfl⟩ := List.mem_map.1 h
    exact ⟨owner, howner, part, hpart, rfl⟩
  · exact absurd h htold

/-- Where no call fails, a pass leaves an object under each of these keys. -/
theorem exists_object?_run {key : StoreKey} (h : key ∈ keys es) (htold : key ∉ toldKeys es)
    (generated : String) {σ : Script} (hσ : σ.Quiet) (s : Store) :
    ∃ object, ((run es generated).course σ s).store.object? key = some object := by
  obtain ⟨owner, howner, part, hpart, rfl⟩ := exists_setUp_of_mem_keys h htold
  obtain ⟨desired, hwanted⟩ := exists_wanted howner generated hpart
  obtain ⟨_, _, t, hcourse, -, hsettled⟩ := settled_setUp howner generated hσ s
  obtain ⟨object, hobject, -⟩ := hsettled (part.goal owner) desired ⟨part, rfl, hpart, hwanted⟩
  rw [object?_run_of_setUp howner hσ hpart, hcourse]
  exact ⟨object, hobject⟩

/-! ## §4. Two clusters -/

/-- A pass over the cluster may create or change the object under this key. -/
def MayWrite (es : LoggingOperator.Elasticsearch) (key : StoreKey) : Prop :=
  ∃ generated events r, Traces (run es generated) events r ∧ key ∈ targets events

theorem MayWrite.mem_keys {key : StoreKey} (h : MayWrite es key) : key ∈ keys es := by
  obtain ⟨generated, events, r, htraces, hkey⟩ := h
  exact (writes_run es generated events r htraces).subset hkey

/-- A service of the one role selects the pods of the other one. -/
def Selecting (es : LoggingOperator.Elasticsearch) (role : Role)
    (es' : LoggingOperator.Elasticsearch) (role' : Role) : Prop :=
  ∃ built workload service, services es role = .ok built ∧ statefulSet es' role' = .ok workload
    ∧ (service = built.1 ∨ service = built.2) ∧ service.Selects workload

theorem Selecting.same {role role' : Role} (h : Selecting es role es' role') :
    (es.metadata.ns, es.metadata.name) = (es'.metadata.ns, es'.metadata.name) ∧ role = role' := by
  obtain ⟨built, workload, service, hservices, hworkload, hservice, hselects⟩ := h
  obtain ⟨hns, hname, hrole⟩ := (selects_iff hservices hworkload hservice).1 hselects
  exact ⟨Prod.ext hns hname, hrole⟩

/-- The services of a role select its own pods, if it has any, and no others of the
    cluster. -/
theorem selecting_iff {role role' : Role} :
    Selecting es role es role' ↔ role = role' ∧ ∃ workload, statefulSet es role = .ok workload := by
  constructor
  · intro h
    obtain ⟨-, rfl⟩ := h.same
    obtain ⟨_, workload, _, -, hworkload, -⟩ := h
    exact ⟨rfl, workload, hworkload⟩
  · rintro ⟨rfl, workload, hworkload⟩
    obtain ⟨owner, howner, -⟩ := labels_statefulSet hworkload
    obtain ⟨routable, headless, hservices, -⟩ := services_eq_ok howner role
    exact ⟨(routable, headless), workload, routable, hservices, hworkload, Or.inl rfl,
      (selects_iff hservices hworkload (Or.inl rfl)).2 ⟨rfl, rfl, rfl⟩⟩

/-- Where no call to the object store fails, the passes leave the same objects in
    whichever order they are made, for the same passwords.  What depends on the
    management API is left out.  Objects are JSON values, so their trees are
    canonical. -/
def Commute (es es' : LoggingOperator.Elasticsearch) : Prop :=
  ∀ (generated generated' : String) {σ₁ σ₂ τ₁ τ₂ : Script}, σ₁.Quiet → σ₂.Quiet → τ₁.Quiet →
    τ₂.Quiet → ∀ s : Store, (∀ key object, s.object? key = some object → object.Canonical) →
      ∀ key, key ∉ toldKeys es → key ∉ toldKeys es' →
        (((run es' generated').course σ₂ ((run es generated).course σ₁ s).store).store.object?
            key).map (comparable key.kind)
          = (((run es generated).course τ₂ ((run es' generated').course τ₁ s).store).store.object?
            key).map (comparable key.kind)

/-- What is an object of the first cluster alone is made the same, whether the second
    one is looked after before or after it. -/
theorem comparable_beside {key : StoreKey} (hkey : key ∈ keys es) (hother : key ∉ keys es')
    (htold : key ∉ toldKeys es) (generated generated' : String) {σ₁ σ₂ τ₁ τ₂ : Script}
    (hσ : σ₁.Quiet) (hτ : τ₂.Quiet) {s : Store}
    (hcanonical : ∀ object, s.object? key = some object → object.Canonical) :
    (((run es' generated').course σ₂ ((run es generated).course σ₁ s).store).store.object?
        key).map (comparable key.kind)
      = (((run es generated).course τ₂ ((run es' generated').course τ₁ s).store).store.object?
        key).map (comparable key.kind) := by
  obtain ⟨owner, howner, part, hpart, rfl⟩ := exists_setUp_of_mem_keys hkey htold
  rw [object?_run hother]
  have hsame := object?_run hother generated' τ₁ s
  have hkind : (part.goal owner).key.kind = part.kind := part.kind_goal owner
  rw [hkind]
  exact comparable_run howner hσ hτ hpart hsame hcanonical

theorem commute (hdisjoint : (keys es).Disjoint (keys es')) : Commute es es' := by
  intro generated generated' σ₁ σ₂ τ₁ τ₂ hσ₁ hσ₂ hτ₁ hτ₂ s hcanonical key htold htold'
  by_cases hkey : key ∈ keys es
  · exact comparable_beside hkey (hdisjoint hkey) htold generated generated' hσ₁ hτ₂
      (hcanonical key)
  · by_cases hkey' : key ∈ keys es'
    · exact (comparable_beside hkey' hkey htold' generated' generated hτ₁ hσ₂ (hcanonical key)).symm
    · -- Neither pass writes the object.
      rw [object?_run hkey', object?_run hkey, object?_run hkey, object?_run hkey']

/-- A pass over the cluster keeps its own objects apart. -/
structure Tidy (es : LoggingOperator.Elasticsearch) : Prop where
  /-- However its calls are answered, a pass writes under these keys alone, each at
      most once. -/
  writes : ∀ generated, Writes (keys es) (run es generated)
  /-- No two of the keys are the same. -/
  nodup : (keys es).Nodup
  /-- Where no call fails, there is an object under each of them in the end, whether
      or not the management API is at work. -/
  present : ∀ generated {σ : Script}, σ.Quiet → ∀ s, ∀ key ∈ keys es, key ∉ toldKeys es →
    ∃ object, ((run es generated).course σ s).store.object? key = some object
  /-- The services of a role select the pods of the role, and of no other one. -/
  selects : ∀ {role role'},
    Selecting es role es role' ↔ role = role' ∧ ∃ workload, statefulSet es role = .ok workload

/-- The clusters do not step on each other. -/
structure KeepApart (es es' : LoggingOperator.Elasticsearch) : Prop where
  /-- No object is written by passes over both of them. -/
  writes : ∀ {key}, MayWrite es key → ¬ MayWrite es' key
  /-- No service of the one selects pods of the other one. -/
  selects : ∀ {role role'}, ¬ Selecting es role es' role' ∧ ¬ Selecting es' role es role'
  /-- It does not matter which one is looked after first. -/
  commute : Commute es es'

/-- **Clusters do not step on each other.**  Two search clusters that differ in their
    namespace or their name, whatever they are called, share no object and select
    no pods of each other, so that passes over them may be made in either order. -/
theorem clusters_apart
    (hapart : (es.metadata.ns, es.metadata.name) ≠ (es'.metadata.ns, es'.metadata.name)) :
    Tidy es ∧ Tidy es' ∧ KeepApart es es' := by
  have htidy : ∀ es, Tidy es := fun es =>
    { writes := writes_run es
      nodup := nodup_keys es
      present := fun generated _ hσ s _ hkey htold => exists_object?_run hkey htold generated hσ s
      selects := selecting_iff }
  have hdisjoint := disjoint_keys hapart
  exact ⟨htidy es, htidy es',
    { writes := fun h h' => hdisjoint h.mem_keys h'.mem_keys
      selects := ⟨fun h => hapart h.same.1, fun h => hapart h.same.1.symm⟩
      commute := Elasticsearch.commute hdisjoint }⟩

/-- A cluster that is called like the workload of another one. -/
def suffixed : LoggingOperator.Elasticsearch :=
  { dashboarded with
    metadata := { ns := some "ns", name := some "logs-master", uid := some "c41d" } }

/-- A store that holds nothing yet. -/
def emptyStore : Store where
  stamps := dashboardedWorld.store.stamps

/-- Two clusters of one namespace, where one is called like the workload of the other
    one, looked after for the first time. -/
theorem clusters_apart_suffixed :
    suffixed.metadata.name = some (Naming.workload dashboarded.id .master)
      ∧ (dashboarded.metadata.ns, dashboarded.metadata.name)
        ≠ (suffixed.metadata.ns, suffixed.metadata.name)
      ∧ Tidy dashboarded ∧ Tidy suffixed ∧ KeepApart dashboarded suffixed
      ∧ ∀ key, key ∉ toldKeys dashboarded → key ∉ toldKeys suffixed →
        (((run suffixed "second").course Script.refusing
            ((run dashboarded "first").course Script.refusing emptyStore).store).store.object?
              key).map (comparable key.kind)
          = (((run dashboarded "first").course Script.refusing
            ((run suffixed "second").course Script.refusing emptyStore).store).store.object?
              key).map (comparable key.kind) := by
  have hapart : (dashboarded.metadata.ns, dashboarded.metadata.name)
      ≠ (suffixed.metadata.ns, suffixed.metadata.name) := by decide
  obtain ⟨htidy, htidy', happly⟩ := clusters_apart hapart
  have hquiet := Script.quiet_refusing
  exact ⟨by decide, hapart, htidy, htidy', happly,
    happly.commute "first" "second" hquiet hquiet hquiet hquiet emptyStore nofun⟩

end Pass.Elasticsearch

end LoggingOperator
