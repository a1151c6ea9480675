/-
  LoggingOperator.Proofs.Pass.Phases — THE PHASES OF A PASS OVER A SEARCH CLUSTER.

  A pass over a search cluster goes through five phases: it sets up the
  objects, it reads the password, it probes the cluster, it sees to the token,
  and it writes the status.  Whatever its calls are answered, what it does is
  that, or the beginning of it (`traces_run`):

    * before the probe it calls the object store alone, and does not write the
      declaration (`Preparing`);
    * it asks for the health of the cluster at most once (`Probes`);
    * it only calls for tokens where the cluster was found to be ready
      (`Token`), and in one of four ways (`Issues`);
    * its last call is the status write, and the status says what the probe was
      told.
-/
import LoggingOperator.Proofs.Pass.Calls
import LoggingOperator.Proofs.Program.Course

namespace LoggingOperator

open Convergence (ensureOnce withLastApplied)
open Management (Call Endpoint ManagementError ServiceToken TokenId)
open Program

/-- A call that writes no object of this kind. -/
def Event.Beside (kind : Kind) : Event → Prop
  | .store call _ => call.op = .get ∨ call.kind ≠ kind
  | .manage .. => True
  | _ => False

variable {events : List Event}

/-! ## §1. The parts of a pass -/

/-- To create an object takes one call, if the object can be sent. -/
theorem Convergence.traces_createOnce {ε : Type} {embed : StoreError → ε} {kind : Kind}
    {name : String} {desired : Json} {r : Except ε Outcome}
    (h : Traces (createOnce embed kind name desired) events r) :
    events = [] ∨ ∃ object answer, withLastApplied desired = .ok object
      ∧ events = [.store (.create kind object) answer] := by
  unfold createOnce at h
  cases hprepared : prepareCreate desired with
  | error e =>
    rw [hprepared] at h
    exact Or.inl (traces_fail_iff.1 h).1
  | ok object =>
    rw [hprepared] at h
    obtain ⟨answer, later, rfl, hlater⟩ := traces_store_iff.1 h
    refine Or.inr ⟨object, answer, hprepared, ?_⟩
    congr 1
    split at hlater
    · exact (traces_done_iff.1 hlater).1
    · exact (traces_done_iff.1 hlater).1
    · exact (traces_fail_iff.1 hlater).1

namespace Pass

/-- What a status write comes to: it was carried out, it lost a race, or it
    failed. -/
def conflictOf : Except StoreError Json → Except PassError Bool
  | .ok _ => .ok false
  | .error e => if e.isConflict then .ok true else .error (.store e)

theorem traces_writeStatus_iff {kind : Kind} {declared status : Json}
    {r : Except PassError Bool} :
    Traces (writeStatus kind declared status) events r ↔
      ∃ answer, events = [.store (.replaceStatus kind (declared.set "status" status)) answer]
        ∧ r = conflictOf answer := by
  have hend : ∀ answer later,
      Traces (match answer with
        | .ok _ => (.done false : Pass Bool)
        | .error e => if e.isConflict then .done true else .fail (.store e)) later r
      ↔ later = [] ∧ r = conflictOf answer := by
    intro answer later
    cases answer with
    | ok _ => exact traces_done_iff
    | error e =>
      simp only [conflictOf]
      split
      · exact traces_done_iff
      · exact traces_fail_iff
  unfold writeStatus
  rw [traces_store_iff]
  constructor
  · rintro ⟨answer, later, rfl, h⟩
    obtain ⟨rfl, rfl⟩ := (hend answer later).1 h
    exact ⟨answer, rfl, rfl⟩
  · rintro ⟨answer, rfl, rfl⟩
    exact ⟨answer, [], rfl, (hend answer []).2 ⟨rfl, rfl⟩⟩

namespace Elasticsearch

variable {es : LoggingOperator.Elasticsearch} {ns generated : String}

/-- A call to the object store that does not write a declared cluster. -/
def Preparing : Event → Prop
  | .store call _ => call.op = .get ∨ call.kind ≠ .elasticsearch
  | _ => False

theorem Preparing.beside {event : Event} (h : Preparing event) : event.Beside .elasticsearch := by
  cases event with
  | store call answer => exact h
  | _ => exact h.elim

/-! ## §2. The token -/

section Token

variable {endpoint : Endpoint} {token : TokenId}

/-- The ways to issue a token. -/
inductive Issues (endpoint : Endpoint) (token : TokenId) :
    List Event → Except PassError ServiceToken → Prop
  | issued (issued : ServiceToken) :
    Issues endpoint token [.manage endpoint (.createToken token) (.ok issued)] (.ok issued)
  | refused {e : ManagementError} (other : e.isConflict = false) :
    Issues endpoint token [.manage endpoint (.createToken token) (.error e)]
      (.error (.management e))
  /-- The token is issued already and cannot be deleted. -/
  | kept {e e' : ManagementError} (taken : e.isConflict = true) :
    Issues endpoint token [.manage endpoint (.createToken token) (.error e),
      .manage endpoint (.deleteToken token) (.error e')] (.error (.management e'))
  /-- The token is issued already, so it is deleted and issued again. -/
  | again {e : ManagementError} {answer : Except ManagementError ServiceToken}
    (taken : e.isConflict = true) :
    Issues endpoint token [.manage endpoint (.createToken token) (.error e),
      .manage endpoint (.deleteToken token) (.ok ()),
      .manage endpoint (.createToken token) answer] (answer.mapError .management)

theorem traces_issueToken {r : Except PassError ServiceToken}
    (h : Traces (issueToken endpoint token) events r) : Issues endpoint token events r := by
  obtain ⟨answer, later, rfl, hlater⟩ := traces_manage_iff.1 h
  cases answer with
  | ok issued =>
    obtain ⟨rfl, rfl⟩ := traces_done_iff.1 hlater
    exact .issued issued
  | error e =>
    dsimp only at hlater
    split at hlater
    · next taken =>
      obtain ⟨r₀, hr₀, rfl⟩ := traces_mapError_iff.1 hlater
      obtain ⟨deleted, rest, rfl, hrest⟩ := traces_manage_iff.1 hr₀
      cases deleted with
      | error e' =>
        obtain ⟨rfl, rfl⟩ := traces_fail_iff.1 hrest
        exact .kept taken
      | ok _ =>
        obtain ⟨answer, rest', rfl, hrest'⟩ := traces_manage_iff.1 hrest
        obtain ⟨rfl, rfl⟩ := traces_ofExcept_iff.1 hrest'
        cases answer with
        | ok issued => exact .again taken
        | error e' => exact .again taken
    · next other =>
      obtain ⟨rfl, rfl⟩ := traces_fail_iff.1 hlater
      exact .refused (Bool.not_eq_true _ ▸ other)

/-- The calls to issue a token and keep it in its secret. -/
inductive Asks (es : LoggingOperator.Elasticsearch) (ns : String) (endpoint : Endpoint)
    (token : TokenId) : List Event → Prop
  /-- The secret is there, or cannot be read. -/
  | told {answer : Except StoreError Json} (known : Convergence.stored? answer ≠ .ok none) :
    Asks es ns endpoint token
      [.store (.get .secret (Naming.tokenSecret es.id) (some ns)) answer]
  /-- There is no secret.  If the token is issued, the secret is created. -/
  | asks {e : StoreError} {issues created : List Event} {r : Except PassError ServiceToken}
    (missing : e.isNotFound = true) (issued : Issues endpoint token issues r)
    (kept : created = [] ∨ ∃ object answer,
      created = [.store (.create .secret object) answer]
        ∧ object.name = .ok (Naming.tokenSecret es.id) ∧ object.namespace? = some ns) :
    Asks es ns endpoint token
      (.store (.get .secret (Naming.tokenSecret es.id) (some ns)) (.error e)
        :: (issues ++ created))

theorem SecretOf.namespace?_eq {name : String → String} {key : String} {value : List UInt8}
    {desired : Json} (h : SecretOf es name key value desired) (hns : es.metadata.ns = some ns) :
    desired.namespace? = some ns := by
  obtain ⟨owner, howner, rfl⟩ := h
  rw [← hns, (Owner.of_ofMetadata howner).1]
  exact Kind.namespace?_object

theorem traces_ensureToken (hns : es.metadata.ns = some ns) {integration : ServiceIntegration}
    {r : Except PassError Convergence.Outcome}
    (h : Traces (ensureToken es ns endpoint integration) events r) :
    Asks es ns endpoint (tokenId integration) events := by
  obtain ⟨answer, later, rfl, hlater⟩ := traces_store_iff.1 h
  cases hstored : Convergence.stored? answer with
  | error e =>
    rw [hstored] at hlater
    obtain ⟨rfl, -⟩ := traces_fail_iff.1 hlater
    exact .told (by simp [hstored])
  | ok stored =>
    rw [hstored] at hlater
    cases stored with
    | some object =>
      obtain ⟨rfl, -⟩ := traces_done_iff.1 hlater
      exact .told (by simp [hstored])
    | none =>
      obtain ⟨e, rfl, missing⟩ : ∃ e, answer = .error e ∧ e.isNotFound = true := by
        cases answer with
        | ok object => cases hstored
        | error e =>
          refine ⟨e, rfl, ?_⟩
          cases hnone : e.isNotFound <;> simp [Convergence.stored?, hnone] at hstored ⊢
      -- What is created is the secret that was built from what was issued.
      have hbuild : ∀ {issued : ServiceToken} {built : List Event} {x : Except PassError Json},
          Traces (ofBuild ((Manifest.Elasticsearch.tokenSecret es issued.value).map
            Secret.toJson)) built x → built = [] ∧ ∀ desired, x = .ok desired →
              SecretOf es Naming.tokenSecret "token" (Text.Base64.bytes issued.value) desired := by
        intro issued built x hbuilt
        have hdoes : (ofBuild ((Manifest.Elasticsearch.tokenSecret es issued.value).map
            Secret.toJson)).Does (fun _ => True) fun r => ∀ desired, r = .ok desired →
              SecretOf es Naming.tokenSecret "token" (Text.Base64.bytes issued.value) desired :=
          does_buildSecret Naming.tokenSecret "token" (Text.Base64.bytes issued.value)
        exact ⟨(traces_ofExcept_iff.1 hbuilt).1, (hdoes.traces hbuilt).2⟩
      rcases traces_bind_iff.1 hlater with ⟨e', hfails, -⟩ |
        ⟨desired, before, created, rfl, hbefore, hcreated⟩
      · rcases traces_bind_iff.1 hfails with ⟨e', hissues, -⟩ |
          ⟨issued, before, built, rfl, hissues, hbuilt⟩
        · rw [← List.append_nil later]
          exact .asks missing (traces_issueToken hissues) (Or.inl rfl)
        · obtain ⟨rfl, -⟩ := hbuild hbuilt
          exact .asks missing (traces_issueToken hissues) (Or.inl rfl)
      · rcases traces_bind_iff.1 hbefore with ⟨_, -, h⟩ |
          ⟨issued, issues, built, rfl, hissues, hbuilt⟩
        · cases h
        · obtain ⟨rfl, hsecret⟩ := hbuild hbuilt
          have hsecret := hsecret desired rfl
          rw [List.append_nil]
          refine .asks missing (traces_issueToken hissues) ?_
          refine (Convergence.traces_createOnce hcreated).imp_right ?_
          rintro ⟨object, answer, hobject, rfl⟩
          refine ⟨object, answer, rfl, ?_, ?_⟩
          · rw [Convergence.name_withLastApplied hobject, hsecret.name_eq]
          · rw [Convergence.namespace?_withLastApplied hobject, hsecret.namespace?_eq hns]

end Token

/-- The token phase: it waits for the cluster to be ready and to be reached. -/
inductive Token (es : LoggingOperator.Elasticsearch) (ns : String) (found : Option Endpoint)
    (health : Health) : List Event → Prop
  | waits (waits : health ≠ .ready ∨ found = none ∨ es.spec.integration? = none) :
    Token es ns found health []
  | asks {endpoint : Endpoint} {integration : ServiceIntegration} {events : List Event}
    (ready : health = .ready) (reached : found = some endpoint)
    (declared : es.spec.integration? = some integration)
    (asks : Asks es ns endpoint (tokenId integration) events) :
    Token es ns found health events

theorem Issues.beside {endpoint : Endpoint} {token : TokenId}
    {r : Except PassError ServiceToken} (h : Issues endpoint token events r) (kind : Kind) :
    ∀ event ∈ events, event.Beside kind := by
  cases h <;> simp [Event.Beside]

/-- The token phase does not write the declaration. -/
theorem Token.beside {found : Option Endpoint} {health : Health}
    (h : Token es ns found health events) : ∀ event ∈ events, event.Beside .elasticsearch := by
  cases h with
  | waits _ => simp
  | asks _ _ _ asks =>
    cases asks with
    | told _ => simp [Event.Beside, StoreCall.op]
    | asks _ issued kept =>
      simp only [List.forall_mem_cons, List.forall_mem_append]
      refine ⟨Or.inl rfl, issued.beside _, ?_⟩
      rcases kept with rfl | ⟨object, answer, rfl, -⟩
      · simp
      · simp [Event.Beside, StoreCall.kind]

theorem traces_forgiveManagement {p : Pass Convergence.Outcome}
    {r : Except PassError (List Convergence.Outcome)} (h : Traces (forgiveManagement p) events r) :
    ∃ r', Traces p events r' := by
  rcases traces_handle_iff.1 h with ⟨outcomes, hp, -⟩ | ⟨e, before, after, rfl, hp, hafter⟩
  · rcases traces_bind_iff.1 hp with ⟨e, -, he⟩ | ⟨outcome, before, after, rfl, houtcome, hdone⟩
    · cases he
    · obtain ⟨rfl, -⟩ := traces_done_iff.1 hdone
      rw [List.append_nil]
      exact ⟨_, houtcome⟩
  · have hnil : after = [] := by
      cases e with
      | management _ => exact (traces_done_iff.1 hafter).1
      | _ => exact (traces_fail_iff.1 hafter).1
    subst hnil
    rw [List.append_nil]
    rcases traces_bind_iff.1 hp with ⟨e, hp, -⟩ | ⟨outcome, before', after', rfl, -, hdone⟩
    · exact ⟨_, hp⟩
    · cases (traces_done_iff.1 hdone).2

theorem traces_setUpToken (hns : es.metadata.ns = some ns) {p : Progress}
    {r : Except PassError (List Convergence.Outcome)}
    (h : Traces (setUpToken es ns p) events r) :
    Token es ns p.endpoint p.report.health events := by
  unfold setUpToken at h
  split at h
  · next endpoint integration ready reached declared =>
    obtain ⟨r', h⟩ := traces_forgiveManagement h
    exact .asks ready reached declared (traces_ensureToken hns h)
  · next hskipped =>
    obtain ⟨rfl, -⟩ := traces_done_iff.1 h
    refine .waits ?_
    cases hfound : p.endpoint with
    | none => exact Or.inr (Or.inl rfl)
    | some endpoint =>
      cases hintegration : es.spec.integration? with
      | none => exact Or.inr (Or.inr rfl)
      | some integration =>
        exact Or.inl fun hready => hskipped endpoint integration hready hfound hintegration

/-! ## §3. The probe -/

/-- The probe, and what it found: the health of the cluster and its shards. -/
inductive Probes : Option Endpoint → List Event → Health × Option Int32 → Prop
  /-- There is no way to reach the cluster. -/
  | unreached : Probes none [] (.notReady, none)
  | failed {endpoint : Endpoint} {e : ManagementError} :
    Probes (some endpoint) [.manage endpoint .health (.error e)] (.notReady, none)
  | reported {endpoint : Endpoint} {report : Management.HealthReport} :
    Probes (some endpoint) [.manage endpoint .health (.ok report)] (ofReport report)

theorem Probes.beside {found : Option Endpoint} {told : Health × Option Int32}
    (h : Probes found events told) (kind : Kind) : ∀ event ∈ events, event.Beside kind := by
  cases h <;> simp [Event.Beside]

theorem traces_probe {found : Option Endpoint} {r : Except PassError (Health × Option Int32)}
    (h : Traces (probe found) events r) : ∃ told, r = .ok told ∧ Probes found events told := by
  cases found with
  | none =>
    obtain ⟨rfl, rfl⟩ := traces_done_iff.1 h
    exact ⟨_, rfl, .unreached⟩
  | some endpoint =>
    obtain ⟨answer, later, rfl, hlater⟩ := traces_manage_iff.1 h
    cases answer with
    | ok report =>
      obtain ⟨rfl, rfl⟩ := traces_done_iff.1 hlater
      exact ⟨_, rfl, .reported⟩
    | error e =>
      obtain ⟨rfl, rfl⟩ := traces_done_iff.1 hlater
      exact ⟨_, rfl, .failed⟩

/-- What a pass calls to reach the cluster: it reads the password, if there is
    one. -/
def Reads (es : LoggingOperator.Elasticsearch) (ns : String) (events : List Event) : Prop :=
  match es.spec.security.filter Security.hasPassword with
  | none => events = []
  | some security =>
    ∃ answer, events = [.store (.get .secret (security.passwordSource es.id) (some ns)) answer]

theorem traces_endpoint {r : Except PassError (Option Endpoint)}
    (h : Traces (endpoint es ns) events r) : Reads es ns events ∧ ∃ found, r = .ok found := by
  cases hsecurity : es.spec.security.filter Security.hasPassword with
  | none =>
    simp only [endpoint, Reads, hsecurity] at h ⊢
    obtain ⟨rfl, rfl⟩ := traces_done_iff.1 h
    exact ⟨rfl, _, rfl⟩
  | some security =>
    simp only [endpoint, Reads, hsecurity] at h ⊢
    obtain ⟨answer, later, rfl, hlater⟩ := traces_store_iff.1 h
    cases answer with
    | ok stored =>
      obtain ⟨rfl, rfl⟩ := traces_done_iff.1 hlater
      exact ⟨⟨_, rfl⟩, _, rfl⟩
    | error e =>
      obtain ⟨rfl, rfl⟩ := traces_done_iff.1 hlater
      exact ⟨⟨_, rfl⟩, _, rfl⟩

/-! ## §4. Setting up -/

theorem keeps_setUpSecurity_preparing (tls password : Bool) :
    Keeps Preparing (setUpSecurity es ns generated tls password) := by
  have hensure : ∀ (name : String) (built : Except BuildError Json),
      Keeps Preparing (ensureSecret name ns (ofBuild built)) :=
    fun _ _ => Convergence.does_ensureOnce (fun _ => Or.inl rfl) (keeps_ofBuild _)
      fun _ _ _ _ _ => Or.inr nofun
  exact setUpSecurity_induction keeps_done (hensure _ _).bind (hensure _ _).bind tls password

theorem keeps_setUpRole_preparing (role : Role) :
    Keeps Preparing (setUpRole es role) := by
  have hconverge : ∀ (kind : Kind) (desired : Json), kind ≠ .elasticsearch →
      Keeps Preparing (ofStore (Convergence.converge kind desired)) :=
    fun _ _ hkind => Keeps.mapError (Convergence.does_converge
      fun _ _ hcall => Or.inr (hcall ▸ hkind)) _
  simp only [setUpRole, bind_eq, pure_eq]
  refine (keeps_ofBuild _).bind fun workload => ?_
  refine (hconverge .statefulSet _ (by decide)).bind fun first => ?_
  refine (keeps_ofBuild _).bind fun services => ?_
  refine (hconverge .service _ (by decide)).bind fun second => ?_
  exact (hconverge .service _ (by decide)).bind fun third => keeps_done _

/-- The steps before the probe. -/
def setUpSteps (es : LoggingOperator.Elasticsearch) : List Step :=
  es.spec.securitySteps ++ es.spec.roles.map .roleReady

/-- What holds of the end of the step that creates the secrets holds of the step, if
    there is one, and else of nothing being done. -/
theorem securitySteps_induction {P : Pass Progress → Prop} (hdone : ∀ p, P (.done p))
    (hsecurity : ∀ tls password {f : List Convergence.Outcome → Pass Progress},
      (∀ outcomes, P (f outcomes)) → P ((setUpSecurity es ns generated tls password).bind f))
    (p : Progress) : P (takeSteps es ns generated es.spec.securitySteps p) := by
  unfold ElasticsearchSpec.securitySteps
  split
  · split
    · simp only [takeSteps, takeStep, bind_eq, pure_eq, Program.bind_assoc, done_bind]
      exact hsecurity _ _ fun _ => hdone _
    · exact hdone _
  · exact hdone _

/-- The steps after the probe. -/
def closingSteps (es : LoggingOperator.Elasticsearch) : List Step :=
  (if es.spec.integration?.isSome then [.tokenIssue] else []) ++ [.statusWritten]

/-- Every step before the probe is one for secrets or for a declared role. -/
theorem mem_setUpSteps {step : Step} (h : step ∈ setUpSteps es) :
    (∃ tls password, step = .securitySetup tls password)
      ∨ ∃ role, step = .roleReady role ∧ (es.spec.nodes? role).isSome = true := by
  rcases List.mem_append.1 h with h | h
  · unfold ElasticsearchSpec.securitySteps at h
    split at h
    · split at h
      · exact Or.inl ⟨_, _, List.mem_singleton.1 h⟩
      · cases h
    · cases h
  · obtain ⟨role, hrole, rfl⟩ := List.mem_map.1 h
    exact Or.inr ⟨role, rfl, ElasticsearchSpec.mem_roles.1 hrole⟩

/-- What holds of the parts of a pass that set up secrets and declared roles holds
    of all steps before the probe, if it holds of sequences. -/
theorem setUpSteps_induction {P : Pass Progress → Prop} (hdone : ∀ p, P (.done p))
    (hbind : ∀ {p : Pass Progress} {f : Progress → Pass Progress}, P p → (∀ a, P (f a)) →
      P (p.bind f))
    (hsecurity : ∀ tls password p, P (takeStep es ns generated (.securitySetup tls password) p))
    (hrole : ∀ role p, (es.spec.nodes? role).isSome = true →
      P (takeStep es ns generated (.roleReady role) p)) (p : Progress) :
    P (takeSteps es ns generated (setUpSteps es) p) := by
  have hsteps : ∀ (steps : List Step) (p : Progress), (∀ step ∈ steps, step ∈ setUpSteps es) →
      P (takeSteps es ns generated steps p) := by
    intro steps
    induction steps with
    | nil => exact fun p _ => hdone p
    | cons step rest ih =>
      intro p h
      obtain ⟨hstep, hrest⟩ := List.forall_mem_cons.1 h
      refine hbind ?_ fun p => ih p hrest
      rcases mem_setUpSteps hstep with ⟨tls, password, rfl⟩ | ⟨role, rfl, hdeclared⟩
      · exact hsecurity tls password _
      · exact hrole role _ hdeclared
  exact hsteps _ p fun _ => id

/-- **Setting up, a pass calls the object store alone, and does not write the
    declaration.** -/
theorem keeps_setUp (p : Progress) :
    Keeps Preparing (takeSteps es ns generated (setUpSteps es) p) :=
  setUpSteps_induction keeps_done Keeps.bind
    (fun tls password _ => (keeps_setUpSecurity_preparing tls password).bind fun _ => keeps_done _)
    (fun role _ _ => (keeps_setUpRole_preparing role).bind fun _ => keeps_done _) p

/-- Where nothing can be generated, a pass gives up at the first role. -/
theorem takeSteps_roles_unowned {e : BuildError}
    (hunowned : Owner.ofMetadata .elasticsearch es.metadata = .error e) (p : Progress) :
    takeSteps es ns generated (es.spec.roles.map .roleReady) p = .fail (.build e) := by
  have hroles : ∃ roles, es.spec.roles = .master :: roles := ⟨_, rfl⟩
  obtain ⟨roles, hroles⟩ := hroles
  have hworkload : Manifest.Elasticsearch.statefulSet es .master = .error e := by
    rw [Manifest.Elasticsearch.statefulSet, hunowned]
    rfl
  rw [hroles, List.map_cons, takeSteps, takeStep, setUpRole, hworkload]
  rfl

theorem keeps_endpoint_preparing : Keeps Preparing (endpoint es ns) := by
  unfold endpoint
  split
  · exact keeps_done _
  · refine does_store (fun _ => Or.inl rfl) fun answer => ?_
    split
    · exact keeps_done _
    · exact keeps_done _

/-! ## §5. A whole pass -/

/-- What is known after the probe. -/
def Progress.probed (p : Progress) (found : Option Endpoint) (told : Health × Option Int32) :
    Progress where
  report := { (p.started .healthProbe).report with health := told.1, activeShards := told.2 }
  endpoint := found

/-- A pass is what comes before the probe, the probe, and what comes after it. -/
theorem run_eq_phases (hns : es.metadata.ns = some ns) (generated : String) :
    run es generated
      = (takeSteps es ns generated (setUpSteps es) {}).bind fun p =>
        (endpoint es ns).bind fun found => (probe found).bind fun told =>
          (takeSteps es ns generated (closingSteps es) (p.probed found told)).bind
            fun p => .done p.report := by
  have hnamespace : namespaceOf .elasticsearch es.metadata = .done ns := by
    rw [namespaceOf, hns]
  have hplan : es.spec.plan = setUpSteps es ++ .healthProbe :: closingSteps es := by
    simp [ElasticsearchSpec.plan, setUpSteps, closingSteps]
  simp only [run, hnamespace, hplan, takeSteps_append, takeSteps, takeStep, bind_eq, pure_eq,
    done_bind, Program.bind_assoc]
  rfl

/-- The status write of a pass whose probe was told this. -/
def lastCall (es : LoggingOperator.Elasticsearch) (told : Health × Option Int32)
    (answer : Except StoreError Json) : Event :=
  .store (.replaceStatus .elasticsearch (es.toJson.set "status"
    (status es { health := told.1, activeShards := told.2 }).toJson)) answer

/-- After the probe comes the token, and last the status write. -/
theorem traces_closing (hns : es.metadata.ns = some ns) {p : Progress}
    {r : Except PassError Report}
    (h : Traces ((takeSteps es ns generated (closingSteps es) p).bind fun p => .done p.report)
      events r) :
    ∃ token last, events = token ++ last ∧ Token es ns p.endpoint p.report.health token
      ∧ ((last = [] ∧ ∃ e, r = .error e)
        ∨ ∃ answer, last = [lastCall es (p.report.health, p.report.activeShards) answer]
          ∧ r.map Report.statusConflict = conflictOf answer) := by
  -- The status that is written depends on what the probe was told alone.
  have hstatus : ∀ (p' : Progress) {events : List Event},
      p'.report.health = p.report.health → p'.report.activeShards = p.report.activeShards →
      Traces ((takeSteps es ns generated [.statusWritten] p').bind fun p => .done p.report)
        events r →
      ∃ answer, events = [lastCall es (p.report.health, p.report.activeShards) answer]
        ∧ r.map Report.statusConflict = conflictOf answer := by
    intro p' events hhealth hshards h
    simp only [takeSteps, takeStep, bind_eq, pure_eq, Program.bind_assoc, done_bind] at h
    have hsame : status es (p'.started .statusWritten).report
        = status es { health := p.report.health, activeShards := p.report.activeShards } := by
      rw [← hhealth, ← hshards]
      rfl
    rw [hsame] at h
    rcases traces_bind_iff.1 h with ⟨e, hwrite, rfl⟩ | ⟨conflict, before, after, rfl, hwrite, hdone⟩
    · obtain ⟨answer, rfl, hanswer⟩ := traces_writeStatus_iff.1 hwrite
      exact ⟨answer, rfl, hanswer⟩
    · obtain ⟨answer, rfl, hanswer⟩ := traces_writeStatus_iff.1 hwrite
      obtain ⟨rfl, rfl⟩ := traces_done_iff.1 hdone
      exact ⟨answer, rfl, hanswer⟩
  unfold closingSteps at h
  split at h
  · simp only [takeSteps_append, takeSteps, takeStep, bind_eq, pure_eq, Program.bind_assoc,
      done_bind] at h
    rcases traces_bind_iff.1 h with ⟨e, htoken, rfl⟩ | ⟨outcomes, token, last, rfl, htoken, hlast⟩
    · exact ⟨events, [], (List.append_nil _).symm,
        traces_setUpToken (p := p.started .tokenIssue) hns htoken, Or.inl ⟨rfl, e, rfl⟩⟩
    · exact ⟨token, last, rfl, traces_setUpToken (p := p.started .tokenIssue) hns htoken,
        Or.inr (hstatus ((p.started .tokenIssue).did outcomes) rfl rfl
          (by simpa only [takeSteps, takeStep, bind_eq, pure_eq, Program.bind_assoc, done_bind]
            using hlast))⟩
  · next hnone =>
    refine ⟨[], events, rfl, .waits (Or.inr (Or.inr ?_)), Or.inr (hstatus p rfl rfl h)⟩
    simpa using hnone

/-- **What a pass does**, whatever its calls are answered: it stops before the
    probe, or it goes through all its phases, where it may stop at the token. -/
theorem traces_run (hns : es.metadata.ns = some ns) {r : Except PassError Report}
    (h : Traces (run es generated) events r) :
    ((∀ event ∈ events, Preparing event) ∧ ∃ e, r = .error e)
      ∨ ∃ before probe token last found told, events = before ++ probe ++ token ++ last
        ∧ (∀ event ∈ before, Preparing event) ∧ Probes found probe told
        ∧ Token es ns found told.1 token
        ∧ ((last = [] ∧ ∃ e, r = .error e)
          ∨ ∃ answer, last = [lastCall es told answer]
            ∧ r.map Report.statusConflict = conflictOf answer) := by
  rw [run_eq_phases hns] at h
  rcases traces_bind_iff.1 h with ⟨e, hsetup, rfl⟩ | ⟨p, setup, rest, rfl, hsetup, h⟩
  · exact Or.inl ⟨((keeps_setUp {}).traces hsetup).1, e, rfl⟩
  have hsetup := ((keeps_setUp {}).traces hsetup).1
  -- Neither to look for the cluster nor to probe it makes the pass fail.
  right
  rcases traces_bind_iff.1 h with ⟨e, hread, -⟩ | ⟨found, reading, rest, rfl, hread, h⟩
  · obtain ⟨-, _, h⟩ := traces_endpoint hread
    cases h
  have hread := (keeps_endpoint_preparing.traces hread).1
  rcases traces_bind_iff.1 h with ⟨e, hprobe, -⟩ | ⟨told, probe, rest, rfl, hprobe, h⟩
  · obtain ⟨_, h, -⟩ := traces_probe hprobe
    cases h
  obtain ⟨_, htold, hprobe⟩ := traces_probe hprobe
  cases htold
  obtain ⟨token, last, rfl, htoken, hlast⟩ := traces_closing hns h
  refine ⟨setup ++ reading, probe, token, last, found, told, by simp, ?_, hprobe, htoken, hlast⟩
  exact List.forall_mem_append.2 ⟨hsetup, hread⟩

end Elasticsearch

end Pass

end LoggingOperator
