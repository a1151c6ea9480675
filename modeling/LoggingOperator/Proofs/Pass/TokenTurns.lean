/-
  LoggingOperator.Proofs.Pass.TokenTurns — A PASS THAT ASKS FOR A TOKEN, TURN BY TURN.

  To say that an interleaving of passes exists is to lead each of them through
  its calls.  `Reaches` says how far passes have gone and what has become of
  the token on the way.  It is extended by a call (`Reaches.turn`), or by a part
  of a pass that only calls the object store and runs on its own
  (`Reaches.part`); where such a part leads is known from running it (§4).

  A pass over a cluster that can be asked without a password sets up the roles,
  probes the cluster and looks for the secret (`Reaches.probe`).  Where the token
  is not issued, it is issued and stored (`Reaches.issue`).  Where meanwhile
  another pass was issued it and stored it, it is issued again, and the secret
  stays as it is (`Reaches.reissue`).
-/
import LoggingOperator.Proofs.Pass.Token
import LoggingOperator.Proofs.Store.Answers

namespace LoggingOperator

open Management (Cluster TokenId Endpoint)
open Program (World Pool Entry Turns Environment Happens nobody)

/-- What a program may not write it leaves as it is. -/
theorem Program.Runs.object?_eq {ε α : Type} {env : Environment} {p : Program ε α} {w w' : World}
    {r : Except ε α} (h : Program.Runs env p w r w') {allowed : Event → Prop}
    {ends : Except ε α → Prop} (hdoes : p.Does allowed ends) {key : StoreKey}
    (hspares : ∀ call answer name, allowed (.store call answer) →
      key ≠ StoreKey.of call.kind call.ns? name) :
    w'.store.object? key = w.store.object? key := by
  -- By induction on the run, call by call.
  induction h with
  | done _ _ => rfl
  | fail _ _ => rfl
  | manage _ _ ih => exact ih ⟨(hdoes.obeys _).2⟩
  | @store call next w w' r injected may rest ih =>
    obtain ⟨hallowed, hrest⟩ := hdoes.obeys ((w.store.inject call injected).answer call).1
    rw [ih ⟨hrest⟩]
    exact (Store.answered rfl).object?_eq fun name _ _ _ _ => hspares _ _ name hallowed

namespace Management.Cluster

theorem hasToken_addToken (c : Cluster) (token : TokenId) :
    (c.addToken token).hasToken token = true := by
  unfold addToken
  split
  · assumption
  · simp [hasToken]

theorem hasToken_removeToken (c : Cluster) (token : TokenId) :
    (c.removeToken token).hasToken token = false := by
  simp [removeToken, hasToken]

end Management.Cluster

namespace Pass.Elasticsearch

variable {es : LoggingOperator.Elasticsearch} {token : TokenId} {event : Event}

/-! ## §1. A cluster that issues tokens -/

/-- Nothing fails, and the values of tokens are given from outside. -/
def issuing : Environment where
  injects _ := False
  answers c endpoint call answer after :=
    ∃ value, ({ c with token := value } : Cluster).answer endpoint call = (answer, after)

section Answers

variable {c : Cluster} (endpoint : Endpoint)

/-- The cluster is asked for its health. -/
theorem answers_health {report : Management.HealthReport} (h : c.health = .ok report) :
    issuing.answers c endpoint .health (.ok report) (c.record endpoint .health) :=
  ⟨c.token, Prod.ext h rfl⟩

variable (token)

/-- A token that is not issued may be issued with any value. -/
theorem answers_issue (value : String) (h : c.hasToken token = false) :
    ∃ after, issuing.answers c endpoint (.createToken token) (.ok ⟨token.name, value⟩) after
      ∧ after.hasToken token = true := by
  have hfree : ¬ c.hasToken token = true := by simp [h]
  exact ⟨_, ⟨.ok value, if_neg hfree⟩, Cluster.hasToken_addToken _ _⟩

/-- A token that is issued is refused. -/
theorem answers_refuse (h : c.hasToken token = true) :
    ∃ after, issuing.answers c endpoint (.createToken token)
        (.error (.status 409 "version_conflict_engine_exception")) after :=
  ⟨({ c with token := .ok "" } : Cluster).record endpoint (.createToken token),
    .ok "", if_pos h⟩

/-- A token that is deleted is not issued. -/
theorem answers_revoke :
    ∃ after, issuing.answers c endpoint (.deleteToken token) (.ok ()) after
      ∧ after.hasToken token = false :=
  ⟨_, ⟨c.token, rfl⟩, Cluster.hasToken_removeToken _ _⟩

end Answers

/-- Whether a token is issued after a call is what the call did about it, if it
    was about no other token. -/
theorem hasToken_of_answers {c after : Cluster} {endpoint : Endpoint} {call : Management.Call}
    {answer : Except Management.ManagementError call.Answer}
    (h : issuing.answers c endpoint call answer after)
    (hnames : ∀ t, call = .createToken t ∨ call = .deleteToken t → t = token) :
    after.hasToken token
      = (((Event.manage endpoint call answer).token? token).map Option.isSome).getD
          (c.hasToken token) := by
  obtain ⟨value, h⟩ := h
  cases call with
  | health | get => cases h; rfl
  | put kind | delete kind => cases kind <;> cases h <;> rfl
  | createToken t =>
    cases hnames t (Or.inl rfl)
    cases value with
    | error e => cases h; rfl
    | ok value =>
      have hanswer : ({ c with token := .ok value } : Cluster).answer endpoint (.createToken token)
          = if c.hasToken token = true
            then (.error (.status 409 "version_conflict_engine_exception"), _)
            else (.ok ⟨token.name, value⟩, _) := rfl
      by_cases htaken : c.hasToken token = true
      · rw [hanswer, if_pos htaken] at h
        cases h
        rfl
      · rw [hanswer, if_neg htaken] at h
        cases h
        rw [Event.token?_of_issued]
        exact Cluster.hasToken_addToken _ _
  | deleteToken t =>
    cases hnames t (Or.inr rfl)
    cases h
    rw [Event.token?_of_deleted]
    exact Cluster.hasToken_removeToken _ _

/-! ## §2. How far passes have gone -/

/-- Passes of a pool have gone this far, and this is what became of the token. -/
def Reaches (token : TokenId) (start : Pool PassError Report) (movers : List Nat)
    (members : List (Pass Report)) (w : World) (values : List String) (valid : Option String) :
    Prop :=
  ∃ p, Turns issuing nobody start p ∧ p.members = members ∧ p.world = w
    ∧ issued token p.history = values ∧ live token p.history = valid
    ∧ ∀ entry ∈ p.history, ∃ i ∈ movers, entry.member = some i

/-- A call to the object store. -/
def OnStore : Event → Prop
  | .store .. => True
  | _ => False

/-- Calls to the object store leave the token alone. -/
theorem unchanged_of_onStore (i : Nat) {events : List Event} (h : ∀ event ∈ events, OnStore event)
    (history : List Entry) :
    issued token (Program.entries i events ++ history) = issued token history
      ∧ live token (Program.entries i events ++ history) = live token history := by
  induction events with
  | nil => exact ⟨rfl, rfl⟩
  | cons event events ih =>
    obtain ⟨hevent, hrest⟩ := List.forall_mem_cons.1 h
    obtain ⟨hissued, hlive⟩ := ih hrest
    have hnone : event.token? token = none := by
      cases event with
      | store call answer => rfl
      | _ => exact hevent.elim
    constructor
    · show issued token (⟨some i, event⟩ :: _) = _
      rw [issued, List.filterMap_cons, hnone]
      exact hissued
    · show live token (⟨some i, event⟩ :: _) = _
      rw [live_of_none hnone]
      exact hlive

namespace Reaches

variable {start : Pool PassError Report} {movers : List Nat} {members : List (Pass Report)}
  {w : World} {values : List String} {valid : Option String} {i : Nat}

theorem start_pool (token : TokenId) (movers : List Nat) (members : List (Pass Report))
    (w : World) : Reaches token (Pool.start members w) movers members w [] none :=
  ⟨_, .refl _, rfl, rfl, rfl, rfl, fun _ h => absurd h List.not_mem_nil⟩

/-- One call. -/
theorem turn (h : Reaches token start movers members w values valid) (hi : i ∈ movers)
    {program program' : Pass Report} {event : Event} {w' : World}
    (hfound : members[i]? = some program) (follows : Program.Follows program event program')
    (happens : Happens issuing w event w') :
    Reaches token start movers (members.set i program') w'
      ((event.token? token).join.toList ++ values) ((event.token? token).getD valid) := by
  obtain ⟨p, hturns, rfl, rfl, rfl, rfl, hmovers⟩ := h
  refine ⟨_, hturns.turn (.member hfound follows happens), rfl, rfl, ?_, rfl, ?_⟩
  · rw [issued, List.filterMap_cons]
    cases (event.token? token).join <;> rfl
  · exact List.forall_mem_cons.2 ⟨⟨i, hi, rfl⟩, hmovers⟩

/-- One more call of the pass that made the last one. -/
theorem next {program program' : Pass Report}
    (h : Reaches token start movers (members.set i program) w values valid) (hi : i ∈ movers)
    (hlength : i < members.length) {event : Event} {w' : World}
    (follows : Program.Follows program event program') (happens : Happens issuing w event w') :
    Reaches token start movers (members.set i program') w'
      ((event.token? token).join.toList ++ values) ((event.token? token).getD valid) := by
  have hturn := h.turn hi (List.getElem?_set_self hlength) follows happens
  rwa [List.set_set] at hturn

/-- **A part of a pass that only calls the object store**, on its own. -/
theorem part (h : Reaches token start movers members w values valid) (hi : i ∈ movers) {β : Type}
    {program : Pass β} {f : β → Pass Report} {w' : World} {b : β}
    (hfound : members[i]? = some (program.bind f)) (hfailures : w.store.failures = [])
    (hrun : program.run w = (.ok b, w')) (hdoes : Keeps OnStore program) :
    Reaches token start movers (members.set i (f b)) w' values valid
      ∧ w'.store.failures = [] ∧ w'.cluster = w.cluster := by
  obtain ⟨p, hturns, rfl, rfl, rfl, rfl, hmovers⟩ := h
  -- The run is one of the ways that the turns may go, since nothing is made to fail.
  have hruns := Program.runs_of_quiet issuing program hfailures fun c _ _ => ⟨c.token, rfl⟩
  have hquiet := Program.failures_run program hfailures
  rw [hrun] at hruns hquiet
  obtain ⟨events, hevents, hmore⟩ := Turns.of_runs_bind hruns hdoes hfound rfl
  obtain ⟨hissued, hlive⟩ := unchanged_of_onStore i hevents p.history
  refine ⟨⟨_, hturns.trans hmore, rfl, rfl, hissued, hlive, fun entry hentry => ?_⟩, hquiet,
    hruns.cluster_eq (hdoes.storeOnly fun _ _ _ => id)⟩
  rcases List.mem_append.1 hentry with hentry | hentry
  · obtain ⟨event, -, rfl⟩ := List.mem_map.1 hentry
    exact ⟨i, hi, rfl⟩
  · exact hmovers entry hentry

/-- What is left of a pass, if it only calls the object store. -/
theorem rest (h : Reaches token start movers members w values valid) (hi : i ∈ movers)
    {program : Pass Report} {w' : World} {report : Report} (hfound : members[i]? = some program)
    (hfailures : w.store.failures = []) (hrun : program.run w = (.ok report, w'))
    (hdoes : Keeps OnStore program) :
    Reaches token start movers (members.set i (.done report)) w' values valid
      ∧ w'.store.failures = [] ∧ w'.cluster = w.cluster := by
  rw [← Program.bind_done program] at hfound
  exact h.part hi hfound hfailures hrun hdoes

end Reaches

/-! ## §3. The steps of a pass without a password -/

/-- A declaration, as it was read, of a token for a cluster that can be asked
    without a password. -/
structure Integrated (es : LoggingOperator.Elasticsearch) (owner : Owner)
    (integration : ServiceIntegration) : Prop where
  read : ∃ object, LoggingOperator.Elasticsearch.ofJson? object = some es
  owner : Owner.ofMetadata .elasticsearch es.metadata = .ok owner
  integration : es.spec.integration? = some integration
  secrets : es.spec.securitySteps = []
  bare : es.spec.security.filter Security.hasPassword = none

/-- The address of the cluster, which is all that it takes to ask it. -/
def bareEndpoint (es : LoggingOperator.Elasticsearch) (ns : String) : Endpoint :=
  { base := baseUrl es ns }

/-- The end of a pass, after its token step. -/
def closing (es : LoggingOperator.Elasticsearch) (ns : String) (p : Progress)
    (outcomes : List Convergence.Outcome) : Pass Report :=
  (takeSteps es ns "" [.statusWritten] (p.did outcomes)).bind fun p => .done p.report

/-- A pass from its token step on. -/
def asking (es : LoggingOperator.Elasticsearch) (ns : String) (p : Progress) : Pass Report :=
  (takeSteps es ns "" [.tokenIssue, .statusWritten] p).bind fun p => .done p.report

/-- A pass from its probe on. -/
def probing (es : LoggingOperator.Elasticsearch) (ns : String) (p : Progress) : Pass Report :=
  (takeSteps es ns "" [.healthProbe, .tokenIssue, .statusWritten] p).bind fun p => .done p.report

/-- A pass that did not find the secret and gets a token by these calls. -/
def withToken (es : LoggingOperator.Elasticsearch) (ns : String) (p : Progress)
    (token : Pass Management.ServiceToken) : Pass Report :=
  (forgiveManagement ((token.bind fun issued =>
      ofBuild ((Manifest.Elasticsearch.tokenSecret es issued.value).map Secret.toJson)).bind
    (Convergence.createOnce .store .secret (Naming.tokenSecret es.id)))).bind (closing es ns p)

section Steps

variable {owner : Owner} {integration : ServiceIntegration} (hes : Integrated es owner integration)

include hes in
/-- A pass sets up the roles first. -/
theorem run_eq :
    run es "" = (takeSteps es owner.ns "" (es.spec.roles.map .roleReady) {}).bind
      (probing es owner.ns) := by
  obtain ⟨hns, -⟩ := Owner.of_ofMetadata hes.owner
  have hnamespace : namespaceOf .elasticsearch es.metadata = .done owner.ns := by
    rw [namespaceOf, hns]
  -- There are no secrets to set up, and a token is asked for.
  have hplan : es.spec.plan = es.spec.roles.map .roleReady
      ++ [.healthProbe, .tokenIssue, .statusWritten] := by
    rw [ElasticsearchSpec.plan, hes.secrets, hes.integration]
    simp
  simp only [run, hnamespace, Program.bind_eq, Program.pure_eq, Program.done_bind, hplan,
    takeSteps_append, Program.bind_assoc]
  rfl

/-- Once the cluster is found and ready, a pass looks for the secret. -/
theorem asking_eq {ns : String} {p : Progress} {endpoint : Endpoint}
    (hready : p.report.health = .ready) (hendpoint : p.endpoint = some endpoint)
    (hintegration : es.spec.integration? = some integration) :
    asking es ns p = (forgiveManagement (ensureToken es ns endpoint integration)).bind
      (closing es ns (p.started .tokenIssue)) := by
  have htoken : setUpToken es ns (p.started .tokenIssue)
      = forgiveManagement (ensureToken es ns endpoint integration) := by
    unfold setUpToken
    rw [show (p.started .tokenIssue).report.health = _ from hready,
      show (p.started .tokenIssue).endpoint = _ from hendpoint, hintegration]
  rw [asking, takeSteps, takeStep, htoken]
  simp only [Program.bind_eq, Program.pure_eq, Program.bind_assoc, Program.done_bind]
  rfl

include hes in
/-- The probe asks the cluster for its health. -/
theorem probing_eq (p : Progress) :
    probing es owner.ns p = (probe (some (bareEndpoint es owner.ns))).bind fun answer =>
      asking es owner.ns {
        report := { (p.started .healthProbe).report with
          health := answer.1
          activeShards := answer.2 }
        endpoint := some (bareEndpoint es owner.ns) } := by
  have hfound : endpoint es owner.ns = .done (some (bareEndpoint es owner.ns)) := by
    rw [endpoint, hes.bare]
    rfl
  rw [probing, takeSteps, takeStep, hfound]
  simp only [Program.bind_eq, Program.pure_eq, Program.bind_assoc, Program.done_bind]
  rfl

include hes in
/-- The probe finds the cluster ready. -/
theorem follows_probe (p : Progress) {report : Management.HealthReport}
    (hready : Health.classify report.colour = .ready) :
    ∃ p' : Progress, Program.Follows (probing es owner.ns p)
      (.manage (bareEndpoint es owner.ns) .health (.ok report))
      ((forgiveManagement (ensureToken es owner.ns (bareEndpoint es owner.ns) integration)).bind
        (closing es owner.ns p')) := by
  have hprobe : Program.Follows (probe (some (bareEndpoint es owner.ns)))
      (.manage (bareEndpoint es owner.ns) .health (.ok report)) (.done (ofReport report)) :=
    .manage _ _ _ _
  have hfollows := hprobe.bind fun answer => asking es owner.ns {
    report := { (p.started .healthProbe).report with health := answer.1, activeShards := answer.2 }
    endpoint := some (bareEndpoint es owner.ns) }
  rw [← probing_eq hes, Program.done_bind, asking_eq hready rfl hes.integration] at hfollows
  exact ⟨_, hfollows⟩

/-- The secret is not found. -/
theorem follows_missing (ns : String) (p : Progress) (endpoint : Endpoint)
    (integration : ServiceIntegration) (kind : Kind) (name : String) :
    Program.Follows
      ((forgiveManagement (ensureToken es ns endpoint integration)).bind (closing es ns p))
      (.store (.get .secret (Naming.tokenSecret es.id) (some ns)) (.error (.notFound kind name)))
      (withToken es ns p (issueToken endpoint (tokenId integration))) :=
  .store _ _ _

/-- What gets the token goes on inside the pass. -/
theorem follows_withToken {p : Progress} {q q' : Pass Management.ServiceToken} {event : Event}
    (h : Program.Follows q event q') :
    Program.Follows (withToken es ns p q) event (withToken es ns p q') :=
  ((((h.bind _).bind _).bind _).handle _).bind _

/-! ## §4. Where the steps lead -/

/-- Under which key a search cluster is declared. -/
def declaredKey (owner : Owner) : StoreKey :=
  StoreKey.of .elasticsearch (some owner.ns) owner.name

/-- A call on an object that a declaration may change. -/
def Changing : Event → Prop
  | .store call _ => call.kind.createdOnce = false
  | _ => False

theorem does_roles (es : LoggingOperator.Elasticsearch) (ns : String) (roles : List Role)
    (p : Progress) : Keeps Changing (takeSteps es ns "" (roles.map .roleReady) p) := by
  induction roles generalizing p with
  | nil => exact keeps_done _
  | cons role roles ih =>
    refine Keeps.bind ?_ fun p => ih p
    exact (keeps_setUpRole es (fun _ _ => id) role).bind fun _ => keeps_done _

theorem Changing.onStore (h : Changing event) : OnStore event := by
  cases event with
  | store call answer => trivial
  | _ => exact h.elim

include hes in
/-- **The roles are set up**, and the declaration and the secret stay as they are. -/
theorem run_roles {w : World} (hfailures : w.store.failures = []) (hserves : w.cluster.Serves) :
    ∃ p w', (takeSteps es owner.ns "" (es.spec.roles.map .roleReady) {}).run w = (.ok p, w')
      ∧ w'.store.object? (declaredKey owner) = w.store.object? (declaredKey owner)
      ∧ w'.store.object? (tokenKey es owner.ns) = w.store.object? (tokenKey es owner.ns) := by
  have hdoes := does_roles es owner.ns es.spec.roles {}
  have hruns := Program.runs_calm (takeSteps es owner.ns "" (es.spec.roles.map .roleReady) {})
    hfailures
  have hleads : Leads Program.calm (Manifest.Elasticsearch.plan es owner w.store)
      (takeSteps es owner.ns "" (es.spec.roles.map .roleReady) {}) w _ :=
    leads_roleSteps tame_calm hes.owner (fun _ hrole => ElasticsearchSpec.mem_roles.1 hrole) {}
  obtain ⟨hadvances, -, -, herror⟩ := hleads _ _ hruns
  -- The secret is not planned for, so that the plan does not say that it stays; its kind does.
  have hsecret := hruns.object?_eq hdoes fun _ _ name hchange =>
    (ne_tokenKey es owner.ns hchange name).symm
  generalize (takeSteps es owner.ns "" (es.spec.roles.map .roleReady) {}).run w = result at *
  obtain ⟨r, w'⟩ := result
  cases r with
  | error e => exact absurd (fair_calm hserves) (herror e rfl)
  | ok p =>
    exact ⟨p, w', rfl, hadvances.own_eq (Manifest.Elasticsearch.sound_plan hes.owner), hsecret⟩

/-- **A status is written or loses a race**, and the pass goes on either way. -/
theorem run_writeStatus {own : StoreKey} {read current declared : Json}
    (hdeclared : Restatable own read declared) (status : Json) {w : World}
    (hfailures : w.store.failures = []) (hfound : w.store.object? own = some current) :
    ∃ conflict w', (writeStatus own.kind declared status).run w = (.ok conflict, w')
      ∧ (∃ current', w'.store.object? own = some current')
      ∧ ∀ key, key ≠ own → w'.store.object? key = w.store.object? key := by
  have hname : (StoreCall.replaceStatus own.kind (declared.set "status" status)).name
      = .ok own.name := hdeclared.named status
  have hkey : StoreKey.of (StoreCall.replaceStatus own.kind (declared.set "status" status)).kind
      (StoreCall.replaceStatus own.kind (declared.set "status" status)).ns? own.name = own :=
    hdeclared.placed status
  have hacted := Store.acted_of_quiet hfailures hname
  rw [hkey] at hacted
  rw [writeStatus, Program.run]
  generalize w.store.answer (.replaceStatus own.kind (declared.set "status" status)) = result at *
  obtain ⟨answer, after⟩ := result
  -- The declaration is there, so that the write is accepted or found to be late.
  cases hacted with
  | missing _ absent =>
    rw [Store.object?_noted, hfound] at absent
    cases absent
  | staleStatus _ _ => exact ⟨true, _, rfl, ⟨current, hfound⟩, fun _ _ => rfl⟩
  | restated _ _ =>
    refine ⟨false, _, rfl, ⟨_, (Store.object?_put _ _ _).trans (if_pos rfl)⟩, ?_⟩
    exact fun key hkey => (Store.object?_put _ _ _).trans (if_neg hkey.symm)

/-- **An object is created, or is there already**, and the pass goes on either way. -/
theorem run_createOnce {g : Goal} {desired : Json} (hdesired : Generated g desired) {w : World}
    (hfailures : w.store.failures = []) :
    ∃ outcome w',
      (Convergence.createOnce PassError.store g.kind g.name desired).run w = (.ok outcome, w')
      ∧ w'.store.failures = []
      ∧ (w.store.object? g.key = none → ∃ after, w'.store.object? g.key = some after
        ∧ Convergence.Wrote g.kind desired none after)
      ∧ (∀ stored, w.store.object? g.key = some stored → w'.store.object? g.key = some stored)
      ∧ ∀ key, key ≠ g.key → w'.store.object? key = w.store.object? key := by
  obtain ⟨object, hobject⟩ := hdesired.recordable
  have hname : (StoreCall.create g.kind object).name = .ok g.name :=
    (Convergence.name_withLastApplied hobject).trans hdesired.named
  have hkey : StoreKey.of (StoreCall.create g.kind object).kind
      (StoreCall.create g.kind object).ns? g.name = g.key := by
    show StoreKey.of g.kind object.namespace? g.name = _
    rw [Convergence.namespace?_withLastApplied hobject, hdesired.placed]
    rfl
  have hquiet := Store.failures_answer hfailures (.create g.kind object)
  have hacted := Store.acted_of_quiet hfailures hname
  rw [hkey] at hacted
  have hprepared : Convergence.prepareCreate desired = .ok object := hobject
  unfold Convergence.createOnce
  rw [hprepared]
  dsimp only [Program.run]
  generalize w.store.answer (.create g.kind object) = result at *
  obtain ⟨answer, after⟩ := result
  cases hacted with
  | missing expects _ => exact absurd rfl expects
  | taken found =>
    rw [Store.object?_noted] at found
    refine ⟨_, _, rfl, hquiet, fun hnone => ?_, fun _ => id, fun _ _ => rfl⟩
    cases hnone.symm.trans found
  | created absent =>
    rw [Store.object?_noted] at absent
    refine ⟨_, _, rfl, hquiet,
      fun _ => ⟨_, (Store.object?_put _ _ _).trans (if_pos rfl), .created _ hobject⟩,
      fun _ hstored => ?_, fun key hkey => ?_⟩
    · cases hstored.symm.trans absent
    · refine (Store.object?_put _ _ _).trans ((if_neg hkey.symm).trans ?_)
      exact Store.object?_congr (Store.objects_stampNew _ _ _) key

include hes in
/-- The end of a pass comes, and leaves all objects but the declaration alone. -/
theorem run_closing (p : Progress) (outcomes : List Convergence.Outcome) {w : World}
    (hfailures : w.store.failures = []) {current : Json}
    (hfound : w.store.object? (declaredKey owner) = some current) :
    ∃ report w', (closing es owner.ns p outcomes).run w = (.ok report, w')
      ∧ (∃ current', w'.store.object? (declaredKey owner) = some current')
      ∧ ∀ key, key ≠ declaredKey owner → w'.store.object? key = w.store.object? key := by
  obtain ⟨read, hread⟩ := hes.read
  obtain ⟨hns, hname⟩ := Owner.of_ofMetadata hes.owner
  have hrestate : Restatable (declaredKey owner) read es.toJson :=
    restatable_of_ofJson? hread hns hname
  simp only [closing, takeSteps, takeStep, Program.bind_eq, Program.pure_eq, Program.bind_assoc,
    Program.done_bind, Program.run_bind]
  obtain ⟨conflict, w', hrun, hrest⟩ := run_writeStatus hrestate
    (status es ((p.did outcomes).started .statusWritten).report).toJson hfailures hfound
  have hrun : (writeStatus .elasticsearch es.toJson
      (status es ((p.did outcomes).started .statusWritten).report).toJson).run w
        = (.ok conflict, w') := hrun
  rw [hrun]
  exact ⟨_, w', rfl, hrest⟩

include hes in
/-- The secret of a token holds the value that it is built with. -/
theorem exists_tokenSecret (value : String) :
    ∃ secret, Manifest.Elasticsearch.tokenSecret es value = .ok secret
      ∧ secret.metadata = owner.metadata (Naming.tokenSecret owner.name)
          (Manifest.Elasticsearch.clusterLabels owner.name)
      ∧ ∀ after, Convergence.Wrote .secret secret.toJson none after →
          Secret.text? "token" after = some value := by
  refine ⟨_, Manifest.Elasticsearch.tokenSecret_eq_ok hes.owner value, rfl, fun after hafter => ?_⟩
  rw [Secret.text?_of_wrote rfl hafter, if_pos rfl, Text.Base64.text?_bytes]

include hes in
/-- **What a pass does with its token**: it stores it where there is no secret, and
    otherwise throws it away.  In any case it comes to its end. -/
theorem run_withToken (p : Progress) (issued : Management.ServiceToken) {w : World}
    (hfailures : w.store.failures = []) {current : Json}
    (hfound : w.store.object? (declaredKey owner) = some current) :
    ∃ report w', (withToken es owner.ns p (.done issued)).run w = (.ok report, w')
      ∧ (∃ current', w'.store.object? (declaredKey owner) = some current')
      ∧ (w.store.object? (tokenKey es owner.ns) = none →
        ∃ stored, w'.store.object? (tokenKey es owner.ns) = some stored
          ∧ Secret.text? "token" stored = some issued.value)
      ∧ ∀ stored, w.store.object? (tokenKey es owner.ns) = some stored →
        w'.store.object? (tokenKey es owner.ns) = some stored := by
  have hne : tokenKey es owner.ns ≠ declaredKey owner := fun h => by
    cases congrArg StoreKey.kind h
  obtain ⟨secret, hsecret, hmetadata, hvalue⟩ := exists_tokenSecret hes issued.value
  have hid : es.id = owner.name := id_eq hes.owner
  -- The secret is created or found, and then the status is written.
  obtain ⟨outcome, w₁, hrun₁, hfailures₁, hcreated, hkept, hothers⟩ :=
    run_createOnce (Secret.generated hmetadata true) hfailures
  have hkey : (Goal.mk Kind.secret (some owner.ns) (Naming.tokenSecret owner.name) true).key
      = tokenKey es owner.ns := by
    rw [tokenKey, hid]
    rfl
  rw [hkey] at hcreated hkept hothers
  obtain ⟨report, w₂, hrun₂, hfound₂, hsame⟩ := run_closing hes p [outcome] hfailures₁
    ((hothers _ hne.symm).trans hfound)
  refine ⟨report, w₂, ?_, hfound₂, fun hnone => ?_, fun stored hstored => ?_⟩
  · rw [withToken, Program.done_bind, hsecret, hid]
    have hbuilt : (ofBuild (Except.map Secret.toJson (.ok secret))).run w
        = (.ok secret.toJson, w) := rfl
    have hcreate : (Convergence.createOnce PassError.store .secret (Naming.tokenSecret owner.name)
        secret.toJson).run w = (.ok outcome, w₁) := hrun₁
    simp only [forgiveManagement, Program.run_bind, Program.run_handle, hbuilt, hcreate]
    exact hrun₂
  · obtain ⟨after, hafter, hwrote⟩ := hcreated hnone
    exact ⟨after, (hsame _ hne).trans hafter, hvalue after hwrote⟩
  · exact (hsame _ hne).trans (hkept stored hstored)

theorem does_withToken (ns : String) (p : Progress) (issued : Management.ServiceToken) :
    Keeps OnStore (withToken es ns p (.done issued)) := by
  refine Keeps.bind (Keeps.handle (Keeps.bind (Keeps.bind (Keeps.bind (keeps_done _) fun issued =>
    keeps_ofBuild _) fun desired => ⟨?_⟩) fun outcome => keeps_done _) fun e => ?_)
    fun outcomes => ?_
  · exact Convergence.obeys_createOnce fun _ _ _ => trivial
  · split
    · exact keeps_done _
    · exact keeps_fail _
  · refine Keeps.bind (Keeps.bind ?_ fun p => keeps_done _) fun p => keeps_done _
    exact (keeps_writeStatus (fun _ _ _ => trivial) rfl _ _).bind fun _ => keeps_done _

end Steps

/-! ## §5. One pass among others -/

/-- What is not there is not found. -/
theorem answer_get_of_absent {s : Store} (hfailures : s.failures = []) {kind : Kind} {name : String}
    {ns : Option String} (habsent : s.object? (StoreKey.of kind ns name) = none) :
    (s.answer (.get kind name ns)).1 = .error (.notFound kind name)
      ∧ (s.answer (.get kind name ns)).2.objects = s.objects := by
  have hacted := Store.acted_of_quiet hfailures
    (show (StoreCall.get kind name ns).name = .ok name from rfl)
  generalize s.answer (.get kind name ns) = result at hacted
  obtain ⟨answer, after⟩ := result
  cases hacted with
  | read found => exact absurd (habsent.symm.trans found) nofun
  | missing _ _ => exact ⟨rfl, rfl⟩

/-- The declaration is there, the secret is not, and the cluster is ready but has
    not issued the token. -/
structure Ready (es : LoggingOperator.Elasticsearch) (owner : Owner) (token : TokenId)
    (w : World) : Prop where
  failures : w.store.failures = []
  declared : ∃ current, w.store.object? (declaredKey owner) = some current
  absent : w.store.object? (tokenKey es owner.ns) = none
  serves : w.cluster.Serves
  free : w.cluster.hasToken token = false

/-- The token is issued, and the secret holds this value. -/
structure Kept (es : LoggingOperator.Elasticsearch) (owner : Owner) (token : TokenId)
    (value : String) (w : World) : Prop where
  failures : w.store.failures = []
  declared : ∃ current, w.store.object? (declaredKey owner) = some current
  stored : ∃ stored, w.store.object? (tokenKey es owner.ns) = some stored
    ∧ Secret.text? "token" stored = some value
  taken : w.cluster.hasToken token = true

namespace Reaches

variable {owner : Owner} {integration : ServiceIntegration} (hes : Integrated es owner integration)
  {start : Pool PassError Report} {movers : List Nat} {members : List (Pass Report)} {w : World}
  {values : List String} {valid : Option String} {i : Nat}
include hes

/-- **A pass finds the cluster ready and the secret missing.** -/
theorem probe (h : Reaches token start movers members w values valid) (hi : i ∈ movers)
    (hfound : members[i]? = some (run es "")) (hw : Ready es owner token w) :
    ∃ p w', Reaches token start movers
        (members.set i (withToken es owner.ns p
          (issueToken (bareEndpoint es owner.ns) (tokenId integration)))) w' values valid
      ∧ Ready es owner token w' := by
  have hlength : i < members.length := (List.getElem?_eq_some_iff.1 hfound).1
  -- The roles are set up.
  obtain ⟨p₁, w₁, hrun, hdeclared, habsent⟩ := run_roles hes hw.failures hw.serves
  rw [run_eq hes] at hfound
  obtain ⟨hroles, hfailures, hcluster⟩ := h.part hi hfound hw.failures hrun
    ((does_roles es owner.ns es.spec.roles {}).mono (fun _ => Changing.onStore) fun _ => id)
  rw [hw.absent] at habsent
  -- The cluster says that it is ready.
  obtain ⟨report, hreport, hready⟩ := hw.serves.ready
  obtain ⟨p₂, hprobe⟩ := follows_probe hes p₁ hready
  have hreport₁ : w₁.cluster.health = .ok report := hcluster ▸ hreport
  have hprobed := hroles.next hi hlength hprobe (.manage (answers_health _ hreport₁))
  -- The secret is not found.
  obtain ⟨hmissing, hsame⟩ := answer_get_of_absent hfailures habsent
  have hlooked := hprobed.next hi hlength
    (follows_missing owner.ns p₂ (bareEndpoint es owner.ns) integration _ _)
    (Program.happens_store hfailures hmissing)
  refine ⟨p₂, _, hlooked, Store.failures_answer hfailures _, ?_, ?_, ?_, ?_⟩
  · obtain ⟨current, hcurrent⟩ := hw.declared
    exact ⟨current, (Store.object?_congr hsame _).trans (hdeclared.trans hcurrent)⟩
  · exact (Store.object?_congr hsame _).trans habsent
  · exact (Cluster.serves_answer (c := w₁.cluster) _ .health).2 (hcluster ▸ hw.serves)
  · exact (congrArg (Cluster.hasToken · token) hcluster).trans hw.free

/-- **A pass that has a token comes to its end**: it stores the token where there
    is no secret, and otherwise leaves the secret as it is. -/
theorem finish {p : Progress} {issued : Management.ServiceToken}
    (h : Reaches token start movers (members.set i (withToken es owner.ns p (.done issued))) w
      values valid)
    (hi : i ∈ movers) (hlength : i < members.length) (hfailures : w.store.failures = [])
    (hdeclared : ∃ current, w.store.object? (declaredKey owner) = some current) :
    ∃ report w', Reaches token start movers (members.set i (.done report)) w' values valid
      ∧ w'.store.failures = [] ∧ w'.cluster = w.cluster
      ∧ (∃ current, w'.store.object? (declaredKey owner) = some current)
      ∧ (w.store.object? (tokenKey es owner.ns) = none →
        ∃ stored, w'.store.object? (tokenKey es owner.ns) = some stored
          ∧ Secret.text? "token" stored = some issued.value)
      ∧ ∀ stored, w.store.object? (tokenKey es owner.ns) = some stored →
        w'.store.object? (tokenKey es owner.ns) = some stored := by
  obtain ⟨current, hcurrent⟩ := hdeclared
  obtain ⟨report, w', hrun, hleft⟩ := run_withToken hes p issued hfailures hcurrent
  obtain ⟨hends, hquiet, hcluster⟩ := h.rest hi (List.getElem?_set_self hlength) hfailures hrun
    (does_withToken owner.ns p issued)
  rw [List.set_set] at hends
  exact ⟨report, w', hends, hquiet, hcluster, hleft⟩

variable {p : Progress} (hi : i ∈ movers)
  (hfound : members[i]? = some (withToken es owner.ns p
    (issueToken (bareEndpoint es owner.ns) (tokenId integration))))
include hi hfound

/-- **A pass that is issued the token stores it.** -/
theorem issue (h : Reaches (tokenId integration) start movers members w values valid)
    (hw : Ready es owner (tokenId integration) w) (value : String) :
    ∃ report w', Reaches (tokenId integration) start movers (members.set i (.done report)) w'
        (value :: values) (some value)
      ∧ Kept es owner (tokenId integration) value w' := by
  have hlength : i < members.length := (List.getElem?_eq_some_iff.1 hfound).1
  obtain ⟨cluster, hanswer, htaken⟩ :=
    answers_issue (tokenId integration) (bareEndpoint es owner.ns) value hw.free
  have hissued := h.turn hi hfound (follows_withToken (.manage _ _ _ _)) (.manage hanswer)
  rw [Event.token?_of_issued] at hissued
  obtain ⟨report, w', hends, hfailures, hcluster, hdeclared, hstored, -⟩ :=
    finish hes hissued hi hlength hw.failures hw.declared
  exact ⟨report, w', hends, hfailures, hdeclared, hstored hw.absent, hcluster ▸ htaken⟩

/-- **A pass that looked for the secret before it was there takes the token away**
    that is stored, and leaves the secret as it is. -/
theorem reissue (h : Reaches (tokenId integration) start movers members w values valid)
    {kept : String} (hw : Kept es owner (tokenId integration) kept w) (value : String) :
    ∃ report w', Reaches (tokenId integration) start movers (members.set i (.done report)) w'
        (value :: values) (some value)
      ∧ Kept es owner (tokenId integration) kept w' := by
  have hlength : i < members.length := (List.getElem?_eq_some_iff.1 hfound).1
  obtain ⟨c₁, hrefused⟩ :=
    answers_refuse (tokenId integration) (bareEndpoint es owner.ns) hw.taken
  obtain ⟨c₂, hrevoked, hfree⟩ :=
    answers_revoke (c := c₁) (tokenId integration) (bareEndpoint es owner.ns)
  obtain ⟨c₃, hissued, htaken⟩ :=
    answers_issue (tokenId integration) (bareEndpoint es owner.ns) value hfree
  -- It is refused, deletes the token, and is issued a new one.
  have hrefuse := h.turn hi hfound (follows_withToken (.manage _ _ _ _)) (.manage hrefused)
  have hrevoke := hrefuse.next hi hlength (follows_withToken (.manage _ _ _ _)) (.manage hrevoked)
  have hissue := hrevoke.next hi hlength (follows_withToken (.manage _ _ _ _)) (.manage hissued)
  rw [Event.token?_of_issued, Event.token?_of_deleted] at hissue
  -- The secret is there when it is to be created.
  obtain ⟨stored, hstored, htext⟩ := hw.stored
  obtain ⟨report, w', hends, hfailures, hcluster, hdeclared, -, hkept⟩ :=
    finish hes hissue hi hlength hw.failures hw.declared
  exact ⟨report, w', hends, hfailures, hdeclared, ⟨stored, hkept stored hstored, htext⟩,
    hcluster ▸ htaken⟩

end Reaches

/-! ## §6. A declaration of this kind -/

/-- A search cluster with a token for its dashboard, as it is stored. -/
def storedDashboarded : Json :=
  .ofFields [
    ("metadata", .ofFields [
      ("name", .string "logs"), ("namespace", .string "ns"), ("uid", .string "7f3a")]),
    ("spec", .ofFields [
      ("esClusterName", .string "logs"),
      ("esSecurity", .ofFields [("kibanaIntegration", .ofFields [])]),
      ("esVersion", .string "8.10.0")])]

/-- The declaration. -/
def dashboarded : LoggingOperator.Elasticsearch where
  metadata := { ns := some "ns", name := some "logs", uid := some "7f3a" }
  spec := {
    clusterName := "logs"
    version := "8.10.0"
    security := some { integration := some {} } }

/-- A store that holds the declaration, and a cluster that is ready. -/
def dashboardedWorld : World where
  store := {
    objects := [(StoreKey.of .elasticsearch (some "ns") "logs", storedDashboarded)]
    stamps := fun version => ⟨toString version, "2024-01-01T00:00:00Z"⟩ }
  cluster := {
    health := .ok { colour := "green" }
    token := .ok "issued" }

theorem owner_dashboarded :
    ∃ owner, Owner.ofMetadata .elasticsearch dashboarded.metadata = .ok owner
      ∧ owner.ns = "ns" ∧ owner.name = "logs" :=
  ⟨_, rfl, rfl, rfl⟩

theorem integrated_dashboarded {owner : Owner}
    (h : Owner.ofMetadata .elasticsearch dashboarded.metadata = .ok owner) :
    Integrated dashboarded owner {} where
  read := ⟨storedDashboarded, rfl⟩
  owner := h
  integration := rfl
  secrets := rfl
  bare := rfl

theorem ready_dashboardedWorld {owner : Owner} (hns : owner.ns = "ns")
    (hname : owner.name = "logs") : Ready dashboarded owner (tokenId {}) dashboardedWorld where
  failures := rfl
  declared := by
    rw [declaredKey, hns, hname]
    exact ⟨_, rfl⟩
  absent := by
    rw [hns]
    rfl
  serves := ⟨⟨_, rfl, by decide⟩, ⟨_, rfl⟩⟩
  free := rfl

end Pass.Elasticsearch

end LoggingOperator
