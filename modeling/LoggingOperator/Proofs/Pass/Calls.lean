/-
  LoggingOperator.Proofs.Pass.Calls — WHICH CALLS A PASS MAKES.

  A pass reads and creates objects of any kind, but it only updates objects
  that a declaration may change later, and only writes the status of
  declarations: secrets, cluster roles and their bindings are created and never
  touched again (`does_pass`).

  A pass over a search cluster issues and deletes tokens, and creates the secret
  of a token, in its token step alone; everywhere else its calls are `Ordinary`
  (`does_takeStep`).
-/
import LoggingOperator.Controller
import LoggingOperator.Proofs.Convergence.Calls
import LoggingOperator.Proofs.Pass.Elasticsearch

namespace LoggingOperator

/-! ## §1. What is created once -/

/-- Objects of these kinds are never changed by the operator. -/
def Kind.createdOnce : Kind → Bool
  | .secret | .clusterRole | .clusterRoleBinding => true
  | _ => false

/-- An update or a status write of an object that is created once. -/
def Event.Rewrites : Event → Prop
  | .store call _ => call.kind.createdOnce = true ∧ (call.op = .update ∨ call.op = .updateStatus)
  | _ => False

namespace Event

variable {kind : Kind} {name : String} {ns : Option String} {call : StoreCall} {object : Json}
  {answer : Except StoreError Json}

theorem not_rewrites_get : ¬ Rewrites (.store (.get kind name ns) answer) := by
  rintro ⟨-, h | h⟩ <;> cases h

theorem not_rewrites_create : ¬ Rewrites (.store (.create kind object) answer) := by
  rintro ⟨-, h | h⟩ <;> cases h

theorem not_rewrites_of_kind (h : call.kind.createdOnce = false) :
    ¬ Rewrites (.store call answer) := by
  rintro ⟨honce, -⟩
  rw [h] at honce
  cases honce

end Event

namespace Pass

open Convergence (converge does_converge ensureOnce does_ensureOnce withLastApplied)
open Management (Call Endpoint TokenId)
open Program

variable {ε ε' α β : Type} {allowed : Event → Prop}

/-! ## §2. Parts of a pass -/

/-- What the parts of a pass do, without regard to their results. -/
abbrev Keeps (allowed : Event → Prop) (p : Program ε α) : Prop :=
  p.Does allowed fun _ => True

theorem Keeps.bind {p : Program ε α} {f : α → Program ε β} (hp : Keeps allowed p)
    (hf : ∀ a, Keeps allowed (f a)) : Keeps allowed (p.bind f) :=
  Does.bind hp (fun a _ => hf a) fun _ _ => trivial

theorem Keeps.handle {p : Program ε α} {f : ε → Program ε' α} (hp : Keeps allowed p)
    (hf : ∀ e, Keeps allowed (f e)) : Keeps allowed (p.handle f) :=
  Does.handle hp (fun _ _ => trivial) fun e _ => hf e

theorem keeps_done (a : α) : Keeps allowed (.done a : Program ε α) :=
  does_done trivial

theorem keeps_fail (e : ε) : Keeps allowed (.fail e : Program ε α) :=
  does_fail trivial

theorem Keeps.mapError {p : Program ε α} (hp : Keeps allowed p) (f : ε → ε') :
    Keeps allowed (p.mapError f) :=
  hp.handle fun _ => keeps_fail _

theorem keeps_callManagement {endpoint : Endpoint} {call : Call}
    (h : ∀ answer, allowed (.manage endpoint call answer)) :
    Keeps allowed (callManagement endpoint call) :=
  does_manage h fun _ => does_ofExcept trivial

theorem keeps_callStore {call : StoreCall} (h : ∀ answer, allowed (.store call answer)) :
    Keeps allowed (callStore call) :=
  does_store h fun _ => does_ofExcept trivial

theorem keeps_ofBuild (r : Except BuildError α) : Keeps allowed (ofBuild r) :=
  does_ofExcept trivial

theorem keeps_namespaceOf (kind : DeclaredKind) (m : Metadata) :
    Keeps allowed (namespaceOf kind m) := by
  unfold namespaceOf
  split
  · exact keeps_done _
  · exact keeps_fail _

/-- Any call on an object that may be changed is allowed. -/
def AllowsChanges (allowed : Event → Prop) : Prop :=
  ∀ call answer, call.kind.createdOnce = false → allowed (.store call answer)

theorem keeps_converge (h : AllowsChanges allowed) {kind : Kind} (hkind : kind.createdOnce = false)
    (desired : Json) : Keeps allowed (ofStore (converge kind desired)) :=
  Keeps.mapError (does_converge fun call answer hcall => h call answer (hcall ▸ hkind)) _

theorem keeps_writeStatus (h : AllowsChanges allowed) {kind : Kind}
    (hkind : kind.createdOnce = false) (declared status : Json) :
    Keeps allowed (writeStatus kind declared status) := by
  refine does_store (fun answer => h _ answer hkind) fun answer => ?_
  split
  · exact keeps_done _
  · split
    · exact keeps_done _
    · exact keeps_fail _

/-! ## §3. A pass over a search cluster -/

namespace Elasticsearch

variable (es : LoggingOperator.Elasticsearch) (ns generated : String)

/-- What a pass over a search cluster does outside its token step: tokens and
    their secret are left alone. -/
inductive Ordinary : Event → Prop
  | read {kind : Kind} {name : String} {ns : Option String} {answer : Except StoreError Json} :
    Ordinary (.store (.get kind name ns) answer)
  | plain {call : StoreCall} {answer : Except StoreError Json}
    (changeable : call.kind.createdOnce = false) : Ordinary (.store call answer)
  | secret {object : Json} {answer : Except StoreError Json}
    (named : object.name = .ok (Naming.passwordSecret es.id)
      ∨ object.name = .ok (Naming.certificateSecret es.id)) :
    Ordinary (.store (.create .secret object) answer)
  | health {endpoint : Endpoint}
    {answer : Except Management.ManagementError Management.HealthReport} :
    Ordinary (.manage endpoint .health answer)

variable {es}

theorem Ordinary.not_rewrites {event : Event} (h : Ordinary es event) : ¬ event.Rewrites := by
  cases h with
  | read => exact Event.not_rewrites_get
  | plain changeable => exact Event.not_rewrites_of_kind changeable
  | secret _ => exact Event.not_rewrites_create
  | health => exact id

/-- What is built for a secret of a declaration, if anything. -/
def SecretOf (es : LoggingOperator.Elasticsearch) (name : String → String) (key : String)
    (value : List UInt8) (desired : Json) : Prop :=
  ∃ owner, Owner.ofMetadata .elasticsearch es.metadata = .ok owner
    ∧ desired = Secret.toJson {
        metadata := owner.metadata (name owner.name)
          (Manifest.Elasticsearch.clusterLabels owner.name)
        key
        value }

theorem SecretOf.name_eq {name : String → String} {key : String} {value : List UInt8}
    {desired : Json} (h : SecretOf es name key value desired) :
    desired.name = .ok (name es.id) := by
  obtain ⟨owner, howner, rfl⟩ := h
  rw [id_eq howner]
  exact Kind.name_object rfl

theorem does_buildSecret (name : String → String) (key : String) (value : List UInt8) :
    (ofBuild (((Owner.ofMetadata .elasticsearch es.metadata).map fun owner => ({
        metadata := owner.metadata (name owner.name)
          (Manifest.Elasticsearch.clusterLabels owner.name)
        key
        value } : Secret)).map Secret.toJson)).Does allowed fun r =>
      ∀ desired, r = .ok desired → SecretOf es name key value desired := by
  refine does_ofExcept fun desired hdesired => ?_
  cases howner : Owner.ofMetadata .elasticsearch es.metadata with
  | error e =>
    rw [howner] at hdesired
    cases hdesired
  | ok owner =>
    rw [howner] at hdesired
    cases hdesired
    exact ⟨owner, howner, rfl⟩

/-- What holds of the end of a step that creates secrets holds of the step, if it
    carries over from what follows the creation of a secret to both of them. -/
theorem setUpSecurity_induction {ns generated : String} {P : Pass (List Convergence.Outcome) → Prop}
    (hdone : ∀ outcomes, P (.done outcomes))
    (hpassword : ∀ {f : Convergence.Outcome → Pass (List Convergence.Outcome)},
      (∀ outcome, P (f outcome)) → P ((ensureSecret (Naming.passwordSecret es.id) ns
        (ofBuild ((Manifest.Elasticsearch.passwordSecret es generated).map Secret.toJson))).bind f))
    (hcertificate : ∀ {f : Convergence.Outcome → Pass (List Convergence.Outcome)},
      (∀ outcome, P (f outcome)) → P ((ensureSecret (Naming.certificateSecret es.id) ns
        (ofBuild ((Manifest.Elasticsearch.certificateSecret es).map Secret.toJson))).bind f))
    (tls password : Bool) : P (setUpSecurity es ns generated tls password) := by
  have hrest : ∀ passwords : List Convergence.Outcome,
      P (if tls = true then
        (ensureSecret (Naming.certificateSecret es.id) ns
          (ofBuild ((Manifest.Elasticsearch.certificateSecret es).map Secret.toJson))).bind
            fun outcome => .done (passwords ++ [outcome])
      else .done (passwords ++ [])) := by
    intro passwords
    split
    · exact hcertificate fun _ => hdone _
    · exact hdone _
  simp only [setUpSecurity, bind_eq, pure_eq, done_bind]
  split
  · exact hpassword fun outcome => hrest [outcome]
  · exact hrest []

variable (es) {ns generated : String}

/-- A secret that is not the token's is created once. -/
theorem keeps_ensureSecret {secret : Except BuildError Secret} {name : String → String}
    {key : String} {value : List UInt8}
    (hbuild : (ofBuild (secret.map Secret.toJson)).Does (Ordinary es) fun r =>
      ∀ desired, r = .ok desired → SecretOf es name key value desired)
    (hname : name es.id = Naming.passwordSecret es.id
      ∨ name es.id = Naming.certificateSecret es.id) :
    Keeps (Ordinary es) (ensureSecret (name es.id) ns (ofBuild (secret.map Secret.toJson))) := by
  refine does_ensureOnce (fun _ => .read) hbuild fun desired object result hdesired hobject => ?_
  refine .secret ?_
  rw [Convergence.name_withLastApplied hobject, (hdesired desired rfl).name_eq]
  exact hname.imp (congrArg Except.ok) (congrArg Except.ok)

theorem keeps_setUpSecurity (tls password : Bool) :
    Keeps (Ordinary es) (setUpSecurity es ns generated tls password) := by
  have hpassword : Keeps (Ordinary es) (ensureSecret (Naming.passwordSecret es.id) ns
      (ofBuild ((Manifest.Elasticsearch.passwordSecret es generated).map Secret.toJson))) :=
    keeps_ensureSecret es (does_buildSecret Naming.passwordSecret "password"
      (Text.Base64.bytes generated)) (Or.inl rfl)
  have hcertificate : Keeps (Ordinary es) (ensureSecret (Naming.certificateSecret es.id) ns
      (ofBuild ((Manifest.Elasticsearch.certificateSecret es).map Secret.toJson))) :=
    keeps_ensureSecret es (does_buildSecret Naming.certificateSecret Manifest.Assets.certificateFile
      Manifest.Assets.certificate) (Or.inr rfl)
  exact setUpSecurity_induction keeps_done hpassword.bind hcertificate.bind tls password

theorem allowsChanges_ordinary : AllowsChanges (Ordinary es) :=
  fun _ _ => .plain

theorem keeps_setUpRole (h : AllowsChanges allowed) (role : Role) :
    Keeps allowed (setUpRole es role) := by
  simp only [setUpRole, bind_eq, pure_eq]
  refine (keeps_ofBuild _).bind fun workload => ?_
  refine (keeps_converge h rfl _).bind fun first => ?_
  refine (keeps_ofBuild _).bind fun services => ?_
  refine (keeps_converge h rfl _).bind fun second => ?_
  exact (keeps_converge h rfl _).bind fun third => keeps_done _

theorem keeps_endpoint : Keeps (Ordinary es) (endpoint es ns) := by
  unfold endpoint
  split
  · exact keeps_done _
  · refine does_store (fun _ => .read) fun answer => ?_
    split
    · exact keeps_done _
    · exact keeps_done _

theorem keeps_probe (found : Option Endpoint) : Keeps (Ordinary es) (probe found) := by
  cases found with
  | none => exact keeps_done _
  | some endpoint =>
    refine does_manage (fun _ => .health) fun answer => ?_
    split
    · exact keeps_done _
    · exact keeps_done _

/-- **Outside its token step a pass leaves tokens and their secret alone.** -/
theorem does_takeStep {step : Step} (hstep : step ≠ .tokenIssue) (p : Progress) :
    Keeps (Ordinary es) (takeStep es ns generated step p) := by
  cases step with
  | securitySetup tls password =>
    exact (keeps_setUpSecurity es tls password).bind fun _ => keeps_done _
  | roleReady role =>
    exact (keeps_setUpRole es (allowsChanges_ordinary es) role).bind fun _ => keeps_done _
  | healthProbe =>
    exact (keeps_endpoint es).bind fun found => (keeps_probe es found).bind fun _ => keeps_done _
  | tokenIssue => exact absurd rfl hstep
  | statusWritten =>
    exact (keeps_writeStatus (allowsChanges_ordinary es) rfl _ _).bind fun _ => keeps_done _

end Elasticsearch

/-! ## §4. No pass rewrites what is created once -/

/-- Any call to the object store is allowed that rewrites nothing. -/
def Lenient (allowed : Event → Prop) : Prop :=
  ∀ call answer, ¬ Event.Rewrites (.store call answer) → allowed (.store call answer)

section Lenient

variable (hallowed : Lenient allowed)
include hallowed

theorem Lenient.ensureOnce {kind : Kind} {name : String} {ns : Option String} {build : Pass Json}
    (h : Keeps allowed build) :
    Keeps allowed (Convergence.ensureOnce PassError.store kind name ns build) :=
  does_ensureOnce (fun _ => hallowed _ _ Event.not_rewrites_get) h
    fun _ _ _ _ _ => hallowed _ _ Event.not_rewrites_create

theorem Lenient.allowsChanges : AllowsChanges allowed :=
  fun _ _ hkind => hallowed _ _ (Event.not_rewrites_of_kind hkind)

end Lenient

/-- The part of a pass never rewrites an object that is created once. -/
abbrev Spares (p : Pass α) : Prop :=
  Keeps (fun event => ¬ event.Rewrites) p

theorem lenient_spares : Lenient fun event => ¬ event.Rewrites :=
  fun _ _ => id

namespace Elasticsearch

variable (es : LoggingOperator.Elasticsearch) (ns generated : String)

/-- To issue a token changes nothing in the object store. -/
theorem spares_issueToken (endpoint : Endpoint) (token : TokenId) :
    Spares (issueToken endpoint token) := by
  refine does_manage (fun _ => id) fun answer => ?_
  split
  · exact keeps_done _
  · split
    · refine Keeps.mapError ?_ _
      exact (keeps_callManagement fun _ => id).bind fun _ => keeps_callManagement fun _ => id
    · exact keeps_fail _

theorem spares_setUpToken (p : Progress) : Spares (setUpToken es ns p) := by
  unfold setUpToken
  split
  · refine ((lenient_spares.ensureOnce ?_).bind fun _ => keeps_done _).handle fun e => ?_
    · exact (spares_issueToken _ _).bind fun _ => keeps_ofBuild _
    · split
      · exact keeps_done _
      · exact keeps_fail _
  · exact keeps_done _

theorem spares_takeStep (step : Step) (p : Progress) :
    Spares (takeStep es ns generated step p) := by
  by_cases hstep : step = .tokenIssue
  · subst hstep
    exact (spares_setUpToken es ns p).bind fun _ => keeps_done _
  · exact (does_takeStep es hstep p).mono (fun _ => Ordinary.not_rewrites) fun _ => id

theorem spares_takeSteps (steps : List Step) (p : Progress) :
    Spares (takeSteps es ns generated steps p) := by
  induction steps generalizing p with
  | nil => exact keeps_done _
  | cons step rest ih => exact (spares_takeStep es ns generated step _).bind fun p => ih p

theorem spares_run : Spares (run es generated) :=
  (keeps_namespaceOf _ _).bind fun ns =>
    (spares_takeSteps es ns generated _ _).bind fun _ => keeps_done _

end Elasticsearch

/-- A pass over a dashboard calls the object store alone. -/
theorem Kibana.keeps_run (hallowed : Lenient allowed) (kb : LoggingOperator.Kibana) :
    Keeps allowed (Kibana.run kb) := by
  simp only [Kibana.run, bind_eq, pure_eq]
  refine (keeps_namespaceOf _ _).bind fun _ => ?_
  refine (keeps_ofBuild _).bind fun deployment => ?_
  refine (keeps_converge hallowed.allowsChanges rfl _).bind fun first => ?_
  refine (keeps_ofBuild _).bind fun service => ?_
  refine (keeps_converge hallowed.allowsChanges rfl _).bind fun second => ?_
  exact (keeps_writeStatus hallowed.allowsChanges rfl _ _).bind fun _ => keeps_done _

/-- A pass over a shipper calls the object store alone. -/
theorem Fluentd.keeps_run (hallowed : Lenient allowed) (fd : LoggingOperator.Fluentd) :
    Keeps allowed (Fluentd.run fd) := by
  simp only [Fluentd.run, bind_eq, pure_eq]
  refine (keeps_namespaceOf _ _).bind fun _ => ?_
  refine (keeps_ofBuild _).bind fun config => ?_
  refine (keeps_converge hallowed.allowsChanges rfl _).bind fun first => ?_
  refine (keeps_ofBuild _).bind fun account => ?_
  refine (keeps_converge hallowed.allowsChanges rfl _).bind fun second => ?_
  refine (keeps_ofBuild _).bind fun rights => ?_
  refine (hallowed.ensureOnce (keeps_ofBuild _)).bind fun third => ?_
  refine (hallowed.ensureOnce (keeps_ofBuild _)).bind fun fourth => ?_
  refine (keeps_ofBuild _).bind fun workload => ?_
  refine (keeps_converge hallowed.allowsChanges rfl _).bind fun fifth => ?_
  refine ((keeps_callStore fun _ => hallowed _ _ Event.not_rewrites_get).mapError _).bind
    fun stored => ?_
  exact (keeps_writeStatus hallowed.allowsChanges rfl _ _).bind fun _ => keeps_done _

namespace Index

variable (endpoint : Endpoint) (kind : Management.EntryKind) (name : String)

theorem spares_call (c : Call) : Spares (Index.call endpoint c) :=
  (keeps_callManagement fun _ => id).mapError _

theorem spares_keep (normal : Json → Json) (desired : Json) :
    Spares (keep endpoint kind name normal desired) := by
  simp only [keep, bind_eq, pure_eq]
  refine (spares_call endpoint _).bind fun stored => ?_
  split
  · exact keeps_done _
  · exact (spares_call endpoint _).bind fun _ => keeps_done _

theorem spares_drop : Spares (drop endpoint kind name) :=
  (spares_call endpoint _).bind fun _ => keeps_done _

theorem spares_runTemplate (it : IndexTemplate) : Spares (runTemplate it) := by
  unfold runTemplate
  split
  · exact spares_keep ..
  · exact spares_drop ..

theorem spares_runLifecycle (il : IndexLifecycle) : Spares (runLifecycle il) := by
  unfold runLifecycle
  split
  · exact spares_keep ..
  · exact spares_drop ..

end Index

/-- **No pass rewrites an object that is created once**, whatever is declared and
    however its calls are answered. -/
theorem does_pass (d : Declared) (generated : String) : Spares (d.pass generated) := by
  cases d with
  | elasticsearch es => exact (Elasticsearch.spares_run es generated).bind fun _ => keeps_done _
  | kibana kb => exact (Kibana.keeps_run lenient_spares kb).bind fun _ => keeps_done _
  | fluentd fd => exact (Fluentd.keeps_run lenient_spares fd).bind fun _ => keeps_done _
  | indexTemplate it => exact (Index.spares_runTemplate it).bind fun _ => keeps_done _
  | indexLifecycle il => exact (Index.spares_runLifecycle il).bind fun _ => keeps_done _

end Pass

end LoggingOperator
