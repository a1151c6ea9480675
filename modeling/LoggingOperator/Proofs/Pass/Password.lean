/-
  LoggingOperator.Proofs.Pass.Password — ONE PASSWORD FOR PODS AND PASSES.

  The nodes of a search cluster take their password from a variable of their
  pods, and a pass logs in to the cluster with what it reads itself.  Both find
  the same text: a pass reads the secret that the variable of every pod names,
  in the namespace of the pods, and logs in with what is decoded from it
  (`Login.unlocked`).  If nothing can be decoded, the cluster is not asked at
  all and is reported as not ready (`Login.locked`).

  A pass reads the secret once and asks the cluster only through what it found
  (`keeps_finish_through`), and no pass changes a secret that is there
  (`course_createdOnce`), so the secret still holds that password at the end.
-/
import LoggingOperator.Proofs.Pass.Credentials
import LoggingOperator.Proofs.Pass.Order

namespace LoggingOperator

open Json

/-! ## §1. A text in a secret -/

namespace Secret

/-- A stored secret holds a text under a key: in base64, as UTF-8. -/
def Holds (stored : Json) (key text : String) : Prop :=
  ∃ encoded, stored.at? ["data", key] = some (.string encoded)
    ∧ Text.Base64.decode? encoded.toList = some (Text.Base64.bytes text)

/-- **What is read from a secret is what it holds.** -/
theorem text?_eq_some_iff {stored : Json} {key text : String} :
    text? key stored = some text ↔ Holds stored key text := by
  have hstring : ∀ {v : Json} {s : String}, v.string? = some s ↔ v = .string s := by
    intro v s
    cases v <;> simp [string?]
  simp only [text?_eq, Option.bind_eq_some_iff, hstring, Text.Base64.text?_eq_some_iff, Holds]
  constructor
  · rintro ⟨encoded, ⟨_, hat, rfl⟩, _, hdecode, rfl⟩
    exact ⟨encoded, hat, hdecode⟩
  · rintro ⟨encoded, hat, hdecode⟩
    exact ⟨encoded, ⟨_, hat, rfl⟩, _, hdecode, rfl⟩

end Secret

/-! ## §2. The variables of the pods -/

/-- The variables with this name. -/
def EnvVar.named (name : String) (vars : List EnvVar) : List EnvVar :=
  vars.filter fun v => v.name = name

theorem EnvVar.named_append (name : String) (vars vars' : List EnvVar) :
    named name (vars ++ vars') = named name vars ++ named name vars' :=
  List.filter_append vars vars'

/-- The variables that the containers of a workload are given. -/
def StatefulSet.environment (s : StatefulSet) : List EnvVar :=
  (s.template.spec.initContainers.getD [] ++ s.template.spec.containers).flatMap
    fun container => container.env.getD []

namespace Manifest.Elasticsearch

open EnvVar (named named_append)

variable {es : LoggingOperator.Elasticsearch} {owner : Owner} {role : Role} {name : String}
  {vars : List EnvVar} {built : StatefulSet}

/-- The environment of a workload is that of its one container that is given any,
    wherever the pods are placed. -/
theorem env_eq_environment (h : statefulSet es role = .ok built) :
    env es role = .ok built.environment := by
  obtain ⟨_, vars, pod, container, placement, -, -, hvars, -, htemplate, hcontainer, hinit⟩ :=
    exists_of_statefulSet h
  have hempty : (initContainers es.spec).flatMap (fun container => container.env.getD []) = [] := by
    unfold initContainers
    split <;> rfl
  rw [hvars, StatefulSet.environment, htemplate]
  cases placement <;> simp [placed, hinit, hempty, hcontainer]

/-- There is at most one variable with the password. -/
theorem named_passwordVars (id : String) (security : Option Security) :
    named "ELASTIC_PASSWORD" (passwordVars id security) = passwordVars id security
      ∧ named "SCHEME" (passwordVars id security) = [] := by
  unfold passwordVars
  split
  · split <;> simp [named, EnvVar.fromSecret]
  · exact ⟨rfl, rfl⟩

/-- What makes a node take its role says nothing else. -/
theorem named_roleVars (id : String) (role : Role) (group : NodeGroup) :
    named "ELASTIC_PASSWORD" (roleVars id role group) = []
      ∧ named "SCHEME" (roleVars id role group) = [] := by
  cases role <;> simp [named, roleVars, EnvVar.literal]

theorem named_encryptionVars (tls : Bool) :
    named "ELASTIC_PASSWORD" (if tls then encryptionVars else []) = []
      ∧ named "SCHEME" (if tls then encryptionVars else []) = [] := by
  cases tls <;> simp [named, encryptionVars, EnvVar.literal]

/-- **Every pod is told the scheme and the secret with the password**, each by at
    most one variable. -/
theorem named_environment (hname : es.metadata.name = some name)
    (h : statefulSet es role = .ok built) :
    named "SCHEME" built.environment = [.literal "SCHEME" es.spec.scheme]
      ∧ named "ELASTIC_PASSWORD" built.environment = passwordVars name es.spec.security := by
  have henv := env_eq_environment h
  unfold env at henv
  simp only [hname, Option.getD_some] at henv
  split at henv
  · cases henv
  · next group hgroup =>
    rw [← Except.ok.inj henv]
    -- Sorting keeps the variables of one name, of which there is at most one.
    have hsorted : ∀ (variableName : String) (vars : List EnvVar),
        (named variableName (sortedEnv vars)).Perm (named variableName vars) :=
      fun _ vars => (perm_sortedEnv vars).filter _
    obtain ⟨hpassword, hpassword'⟩ := named_passwordVars name es.spec.security
    obtain ⟨hrole, hrole'⟩ := named_roleVars name role group
    obtain ⟨hencryption, hencryption'⟩ := named_encryptionVars es.spec.tls
    constructor
    · refine List.perm_singleton.1 ((hsorted _ _).trans (.of_eq ?_))
      rw [named_append, named_append, named_append, hpassword', hrole', hencryption']
      simp [named, EnvVar.literal]
    · have hvars : ∀ {vars : List EnvVar}, vars.Perm (passwordVars name es.spec.security) →
          vars = passwordVars name es.spec.security := by
        unfold passwordVars
        split
        · split
          · exact List.perm_singleton.1
          · exact List.Perm.eq_nil
        · exact List.Perm.eq_nil
      refine hvars ((hsorted _ _).trans (.of_eq ?_))
      rw [named_append, named_append, named_append, hpassword, hrole, hencryption]
      simp [named, EnvVar.literal]

end Manifest.Elasticsearch

/-- A call to the management API. -/
def Event.Manages : Event → Prop
  | .manage .. => True
  | _ => False

namespace Pass

open Management (Endpoint)
open Program

/-! ## §3. What is there stays there -/

/-- What a part of a pass finds of a kind that is created once is there at its
    end, however its calls are answered. -/
theorem course_createdOnce {α : Type} {p : Pass α} (h : Spares p) (σ : Script) {s : Store}
    {key : StoreKey} {object : Json} (honce : key.kind.createdOnce = true)
    (hfound : s.object? key = some object) : (p.course σ s).store.object? key = some object := by
  obtain ⟨h⟩ := h
  induction p generalizing σ s with
  | done a => exact hfound
  | fail e => exact hfound
  | store call next ih =>
    cases hanswered : (s.inject call (σ.fault 0)).answer call with
    | mk answer after =>
      obtain ⟨hspares, hnext⟩ := h answer
      have happens : Happens wild ⟨s, {}⟩ (.store call answer) ⟨after, {}⟩ :=
        .store (fun _ _ => trivial) hanswered
      simp only [course, hanswered]
      exact ih answer _ (happens.object?_eq hspares honce hfound) hnext
  | manage endpoint call next ih => exact ih _ _ hfound (h _).2

/-- What was read is there. -/
theorem object?_of_read {s after : Store} {injected : Option StoreError} {kind : Kind}
    {name : String} {ns : Option String} {object : Json}
    (h : (s.inject (.get kind name ns) injected).answer (.get kind name ns) = (.ok object, after)) :
    after.object? (StoreKey.of kind ns name) = some object := by
  cases Store.answered h with
  | acted named acted =>
    cases named
    cases acted with
    | read found => exact found

namespace Elasticsearch

variable {es : LoggingOperator.Elasticsearch} {ns name generated : String} {found : Option Endpoint}

/-! ## §4. Through one endpoint -/

/-- A call to the management API is made through the endpoint that was found. -/
def Through (found : Option Endpoint) : Event → Prop
  | .manage endpoint _ _ => found = some endpoint
  | _ => True

theorem Preparing.not_manages {event : Event} (h : Preparing event) : ¬ event.Manages := by
  cases event with
  | manage endpoint call answer => exact h.elim
  | _ => exact id

/-- Calls to the object store alone. -/
theorem Through.lenient (found : Option Endpoint) : Lenient (Through found) :=
  fun _ _ _ => trivial

theorem keeps_probe_through (found : Option Endpoint) : Keeps (Through found) (probe found) := by
  cases found with
  | none => exact keeps_done _
  | some endpoint =>
    refine does_manage (fun _ => rfl) fun answer => ?_
    split
    · exact keeps_done _
    · exact keeps_done _

theorem keeps_setUpToken_through (p : Progress) :
    Keeps (Through p.endpoint) (setUpToken es ns p) := by
  unfold setUpToken
  split
  · next endpoint integration hready hfound hintegration =>
    rw [hfound]
    have hissue : Keeps (Through (some endpoint)) (issueToken endpoint (tokenId integration)) := by
      refine does_manage (fun _ => rfl) fun answer => ?_
      split
      · exact keeps_done _
      · split
        · refine Keeps.mapError ?_ _
          exact (keeps_callManagement fun _ => rfl).bind fun _ => keeps_callManagement fun _ => rfl
        · exact keeps_fail _
    refine (((Through.lenient _).ensureOnce ?_).bind fun _ => keeps_done _).handle fun e => ?_
    · exact hissue.bind fun _ => keeps_ofBuild _
    · split
      · exact keeps_done _
      · exact keeps_fail _
  · exact keeps_done _

/-- **The cluster is only asked through the endpoint that was found.** -/
theorem keeps_finish_through (p : Progress) (found : Option Endpoint) :
    Keeps (Through found) (finish es ns generated p found) := by
  have hwrite : ∀ declared status,
      Keeps (Through found) (writeStatus .elasticsearch declared status) :=
    keeps_writeStatus (Through.lenient found).allowsChanges rfl
  refine (keeps_probe_through found).bind fun told => Keeps.bind ?_ fun _ => keeps_done _
  unfold closingSteps
  split
  · simp only [takeSteps, takeStep, List.cons_append, List.nil_append, bind_eq, pure_eq,
      Program.bind_assoc, done_bind]
    refine (keeps_setUpToken_through (p := (p.probed found told).started .tokenIssue)).bind
      fun outcomes => ?_
    exact (hwrite _ _).bind fun _ => keeps_done _
  · exact ((hwrite _ _).bind fun _ => keeps_done _).bind fun _ => keeps_done _

theorem spares_finish (p : Progress) (found : Option Endpoint) :
    Spares (finish es ns generated p found) := by
  have hprobe : Spares (probe found) :=
    (keeps_probe es found).mono (fun _ => Ordinary.not_rewrites) fun _ => id
  exact hprobe.bind fun told => (spares_takeSteps _ _ _ _ _).bind fun _ => keeps_done _

/-- Where the cluster cannot be reached there is nothing to issue a token with, so
    only the status write is left. -/
theorem finish_none (es : LoggingOperator.Elasticsearch) (ns generated : String)
    (p : Progress) :
    ∃ report : Report, report.health = .notReady ∧ report.activeShards = none
      ∧ finish es ns generated p none
        = (writeStatus .elasticsearch es.toJson (status es report).toJson).bind
          fun statusConflict => .done { report with statusConflict } := by
  have htoken : ∀ q : Progress, q.endpoint = none → setUpToken es ns q = .done [] := by
    intro q hq
    unfold setUpToken
    rw [hq]
    split
    · next hfound _ => cases hfound
    · rfl
  unfold finish closingSteps
  split
  · simp only [probe, takeSteps, takeStep, List.cons_append, List.nil_append, bind_eq, pure_eq,
      Program.bind_assoc, done_bind]
    rw [htoken _ rfl]
    exact ⟨_, rfl, rfl, rfl⟩
  · simp only [probe, takeSteps, takeStep, List.nil_append, bind_eq, pure_eq,
      Program.bind_assoc, done_bind]
    exact ⟨_, rfl, rfl, rfl⟩

/-- **A cluster that cannot be reached is reported as not ready**, and that is all
    that is done. -/
theorem traces_unreached {p : Progress} {events : List Event} {r : Except PassError Report}
    (h : Traces (finish es ns generated p none) events r) :
    ∃ written, events = [lastCall es (.notReady, none) written]
      ∧ r.map Report.statusConflict = conflictOf written
      ∧ ∀ report, r = .ok report → report.health = .notReady ∧ report.activeShards = none := by
  obtain ⟨report, hhealth, hshards, heq⟩ := finish_none es ns generated p
  have hstatus : status es report = status es { health := .notReady, activeShards := none } := by
    unfold status
    rw [hhealth, hshards]
  rw [heq, hstatus] at h
  rcases traces_bind_iff.1 h with ⟨e, hwrite, rfl⟩ | ⟨conflict, before, after, rfl, hwrite, hdone⟩
  · obtain ⟨written, rfl, hwritten⟩ := traces_writeStatus_iff.1 hwrite
    exact ⟨written, rfl, hwritten, fun _ hreport => nomatch hreport⟩
  · obtain ⟨written, rfl, hwritten⟩ := traces_writeStatus_iff.1 hwrite
    obtain ⟨rfl, rfl⟩ := traces_done_iff.1 hdone
    refine ⟨written, rfl, hwritten, fun _ hreport => ?_⟩
    cases hreport
    exact ⟨hhealth, hshards⟩

/-! ## §5. Logging in -/

theorem id_of_name (hname : es.metadata.name = some name) : es.id = name := by
  rw [Declaration.id, Metadata.anyName, hname]
  rfl

/-- The address of the management API. -/
def address (es : LoggingOperator.Elasticsearch) (ns name : String) : String :=
  s!"{es.spec.scheme}://{name}-master.{ns}:9200"

theorem baseUrl_eq (hname : es.metadata.name = some name) : baseUrl es ns = address es ns name := by
  have hid : es.id = name := id_of_name hname
  have hport : toString Manifest.Elasticsearch.httpPort = "9200" := by decide +kernel
  have hmaster : "-master." = "-" ++ "master" ++ "." := by decide
  have hport' : ":9200" = ":" ++ "9200" := by decide
  rw [baseUrl, hid, hport]
  simp only [address, Naming.workload, Role.word, hmaster, hport', String.append_assoc, toString]

/-- How a pass over a cluster with a password goes.  What it reads is the secret
    that the pods are told of. -/
inductive Login (es : LoggingOperator.Elasticsearch) (ns name : String) (security : Security)
    (c : Course PassError Report) : Prop
  /-- It fails before it looks for the password. -/
  | stopped (unasked : ∀ event ∈ c.events, ¬ event.Manages) (failed : ∃ e, c.result = .error e)
  /-- No password can be read, so nothing is asked and the cluster is not ready. -/
  | locked {setup : List Event} {answer written : Except StoreError Json}
    (unasked : ∀ event ∈ setup, ¬ event.Manages)
    (events_eq : c.events = setup
      ++ [.store (.get .secret (security.passwordSource name) (some ns)) answer,
        lastCall es (.notReady, none) written])
    (unreadable : ∀ stored password, answer = .ok stored →
      ¬ Secret.Holds stored "password" password)
    (result_eq : c.result.map Report.statusConflict = conflictOf written)
    (unready : ∀ report, c.result = .ok report →
      report.health = .notReady ∧ report.activeShards = none)
  /-- The password is read, and with it the cluster is asked for its health and
      whatever else. -/
  | unlocked {setup rest : List Event} {stored : Json} {password : String}
    {health : Except Management.ManagementError Management.HealthReport}
    (unasked : ∀ event ∈ setup, ¬ event.Manages)
    (events_eq : c.events = setup
      ++ .store (.get .secret (security.passwordSource name) (some ns)) (.ok stored)
        :: .manage ⟨address es ns name, some "elastic", some password⟩ .health health :: rest)
    (holds : Secret.Holds stored "password" password)
    (kept : c.store.object? (StoreKey.of .secret (some ns) (security.passwordSource name))
      = some stored)
    (same : ∀ {endpoint call answer}, .manage endpoint call answer ∈ rest →
      endpoint = ⟨address es ns name, some "elastic", some password⟩)

/-- Looking for the password is one call, and what comes next depends on what can
    be decoded from its answer. -/
theorem course_endpoint (hname : es.metadata.name = some name) {security : Security}
    (hsecurity : es.spec.security.filter Security.hasPassword = some security) (ns : String)
    {α : Type} (next : Option Endpoint → Pass α) {σ : Script} {s after : Store}
    {answer : Except StoreError Json}
    (hanswer : (s.inject (.get .secret (security.passwordSource name) (some ns))
      (σ.fault 0)).answer (.get .secret (security.passwordSource name) (some ns))
        = (answer, after)) :
    ((endpoint es ns).bind next).course σ s
      = ((next ((answer.toOption.bind (Secret.text? "password")).map fun password =>
          ⟨address es ns name, some "elastic", some password⟩)).course (σ.later 1) after).after
        [.store (.get .secret (security.passwordSource name) (some ns)) answer] := by
  simp only [endpoint, hsecurity, id_of_name hname, baseUrl_eq hname, Program.bind, course, hanswer]
  cases answer <;> rfl

/-- A pass is what comes before the password is looked for, and what comes after
    it. -/
theorem course_run_cases (hns : es.metadata.ns = some ns) (generated : String) (σ : Script)
    (s : Store) :
    ((∀ event ∈ ((run es generated).course σ s).events, ¬ event.Manages)
        ∧ ∃ e, ((run es generated).course σ s).result = .error e)
      ∨ ∃ (setup : List Event) (p : Progress) (σ' : Script) (s' : Store),
        (∀ event ∈ setup, ¬ event.Manages)
          ∧ (run es generated).course σ s
            = (((endpoint es ns).bind (finish es ns generated p)).course
              σ' s').after setup := by
  have hunasked : ∀ event ∈ ((takeSteps es ns generated (setUpSteps es) {}).course σ s).events,
      ¬ event.Manages := fun event hevent =>
    (((keeps_setUp {}).traces (traces_course _ σ s)).1 event hevent).not_manages
  have hrun : run es generated = (takeSteps es ns generated (setUpSteps es) {}).bind fun p =>
      (endpoint es ns).bind (finish es ns generated p) :=
    run_eq_phases hns generated
  rw [hrun]
  cases hresult : ((takeSteps es ns generated (setUpSteps es) {}).course σ s).result with
  | error e =>
    have hfails : (takeSteps es ns generated (setUpSteps es) {}).course σ s
        = ⟨((takeSteps es ns generated (setUpSteps es) {}).course σ s).events, .error e,
          ((takeSteps es ns generated (setUpSteps es) {}).course σ s).store⟩ := by
      rw [← hresult]
    rw [course_bind_of_error hfails]
    exact Or.inl ⟨hunasked, e, rfl⟩
  | ok p =>
    rw [course_bind_of_result hresult]
    exact Or.inr ⟨_, p, _, _, hunasked, rfl⟩

/-- **What is asked through a password is asked through the one that was read.** -/
theorem login (hns : es.metadata.ns = some ns) (hname : es.metadata.name = some name)
    {security : Security} (hsecurity : es.spec.security.filter Security.hasPassword = some security)
    (generated : String) (σ : Script) (s : Store) :
    Login es ns name security ((run es generated).course σ s) := by
  rcases course_run_cases hns generated σ s with ⟨hevents, hfailed⟩ |
    ⟨setup, p, σ', s', hunasked, hcourse⟩
  · exact .stopped hevents hfailed
  cases hanswer : (s'.inject (.get .secret (security.passwordSource name) (some ns))
      (σ'.fault 0)).answer (.get .secret (security.passwordSource name) (some ns)) with
  | mk answer after =>
    rw [course_endpoint hname hsecurity ns _ hanswer] at hcourse
    cases hread : answer.toOption.bind (Secret.text? "password") with
    | none =>
      rw [hread, Option.map_none] at hcourse
      obtain ⟨written, hevents, hresult, hunready⟩ := traces_unreached
        (traces_course (finish es ns generated p none) (σ'.later 1) after)
      have hevents' : ((run es generated).course σ s).events = setup
          ++ [.store (.get .secret (security.passwordSource name) (some ns)) answer,
            lastCall es (.notReady, none) written] := by
        rw [hcourse]
        simp only [Course.after, hevents, List.singleton_append]
      refine .locked hunasked hevents' ?_ (hcourse ▸ hresult) (hcourse ▸ hunready)
      rintro stored password rfl hholds
      cases hread.symm.trans (Secret.text?_eq_some_iff.2 hholds)
    | some password =>
      rw [hread, Option.map_some] at hcourse
      obtain ⟨stored, hstored, htext⟩ := Option.bind_eq_some_iff.1 hread
      obtain rfl : answer = .ok stored := by
        cases answer with
        | error e => cases hstored
        | ok _ => rw [Option.some.inj hstored]
      have hspares : Spares (finish es ns generated p
        (some ⟨address es ns name, some "elastic", some password⟩)) := spares_finish p _
      have hthrough := ((keeps_finish_through p _).traces (traces_course (finish es ns generated p
        (some ⟨address es ns name, some "elastic", some password⟩)) (σ'.later 1) after)).1
      have hkept := course_createdOnce hspares (σ'.later 1) rfl (object?_of_read hanswer)
      rw [hcourse]
      refine .unlocked hunasked rfl (Secret.text?_eq_some_iff.1 htext) hkept
        fun {endpoint call answer} hevent => ?_
      have := hthrough (.manage endpoint call answer) (List.mem_cons_of_mem _ hevent)
      exact (Option.some.inj this).symm

/-- Where there is no password, the cluster is asked without one. -/
theorem unsecured_through (hns : es.metadata.ns = some ns) (hname : es.metadata.name = some name)
    (hsecurity : es.spec.security.filter Security.hasPassword = none) (generated : String)
    (σ : Script) (s : Store) :
    ∀ event ∈ ((run es generated).course σ s).events,
      Through (some ⟨address es ns name, none, none⟩) event := by
  have hunasked : ∀ {event : Event}, ¬ event.Manages →
      Through (some ⟨address es ns name, none, none⟩) event := by
    intro event hevent
    cases event with
    | manage endpoint call answer => exact (hevent trivial).elim
    | _ => trivial
  rcases course_run_cases hns generated σ s with ⟨hevents, -⟩ | ⟨setup, p, σ', s', hsetup, hcourse⟩
  · exact fun event hevent => hunasked (hevents event hevent)
  have hendpoint : endpoint es ns = .done (some ⟨address es ns name, none, none⟩) := by
    simp only [endpoint, hsecurity, baseUrl_eq hname]
  rw [hendpoint, done_bind] at hcourse
  rw [hcourse]
  exact List.forall_mem_append.2 ⟨fun event hevent => hunasked (hsetup event hevent),
    ((keeps_finish_through p _).traces (traces_course _ _ _)).1⟩

/-- One pass over a search cluster and the pods it sets up use one address and
    one password. -/
structure OnePassword (es : LoggingOperator.Elasticsearch) (ns name : String)
    (c : Course PassError Report) : Prop where
  /-- Every call to the management API goes to the master service. -/
  address : ∀ {endpoint call answer}, .manage endpoint call answer ∈ c.events →
    endpoint.base = s!"{es.spec.scheme}://{name}-master.{ns}:9200"
  built : ∀ role, (es.spec.nodes? role).isSome = true →
    ∃ built, Manifest.Elasticsearch.statefulSet es role = .ok built
  placed : ∀ {role built}, Manifest.Elasticsearch.statefulSet es role = .ok built →
    built.metadata.ns = some ns
  scheme : ∀ {role built}, Manifest.Elasticsearch.statefulSet es role = .ok built →
    EnvVar.named "SCHEME" built.environment = [.literal "SCHEME" es.spec.scheme]
  /-- With a password, the pods are told of the secret that the pass reads. -/
  secured : ∀ security, es.spec.security = some security →
    (security.existingSecret.isSome || security.generatePassword) = true →
    Login es ns name security c
      ∧ ∀ {role built}, Manifest.Elasticsearch.statefulSet es role = .ok built →
        EnvVar.named "ELASTIC_PASSWORD" built.environment
          = [.fromSecret "ELASTIC_PASSWORD" (security.passwordSource name) "password"]
  /-- Without one, nobody logs in. -/
  unsecured : (∀ security, es.spec.security = some security →
      (security.existingSecret.isSome || security.generatePassword) = false) →
    (∀ {endpoint call answer}, .manage endpoint call answer ∈ c.events →
      endpoint.username = none ∧ endpoint.password = none)
      ∧ ∀ {role built}, Manifest.Elasticsearch.statefulSet es role = .ok built →
        EnvVar.named "ELASTIC_PASSWORD" built.environment = []

/-- Whoever logs in, logs in at the address of the cluster. -/
theorem Login.address {security : Security} {c : Course PassError Report}
    (h : Login es ns name security c) {endpoint : Endpoint} {call : Management.Call}
    {answer : Except Management.ManagementError call.Answer}
    (hevent : .manage endpoint call answer ∈ c.events) :
    endpoint.base = Elasticsearch.address es ns name := by
  cases h with
  | stopped unasked _ => exact (unasked _ hevent trivial).elim
  | locked unasked events_eq _ _ _ =>
    rw [events_eq] at hevent
    rcases List.mem_append.1 hevent with hevent | hevent
    · exact (unasked _ hevent trivial).elim
    · simp [lastCall] at hevent
  | unlocked unasked events_eq _ _ same =>
    rw [events_eq] at hevent
    rcases List.mem_append.1 hevent with hevent | hevent
    · exact (unasked _ hevent trivial).elim
    · rcases List.mem_cons.1 hevent with hevent | hevent
      · cases hevent
      · rcases List.mem_cons.1 hevent with hevent | hevent
        · cases hevent
          rfl
        · rw [same hevent]

/-- **One password everywhere.**  Whatever is stored, and however the calls of a
    pass are answered: it asks the cluster at its one address, with the scheme
    that every pod is told; it logs in with the password in the secret that the
    pods take theirs from, or does not ask at all; and it does not log in where
    the pods have no password.  The secret of a generated password holds that
    password. -/
theorem one_password {uid : String} (hns : es.metadata.ns = some ns)
    (hname : es.metadata.name = some name) (huid : es.metadata.uid = some uid)
    (generated : String) (σ : Script) (s : Store) :
    OnePassword es ns name ((run es generated).course σ s)
      ∧ ∀ password, ∃ built, Manifest.Elasticsearch.passwordSecret es password = .ok built
        ∧ Secret.Holds built.toJson "password" password := by
  obtain ⟨owner, howner, rfl, rfl⟩ : ∃ owner,
      Owner.ofMetadata .elasticsearch es.metadata = .ok owner ∧ owner.ns = ns
        ∧ owner.name = name := Owner.ofMetadata_eq_ok hns hname huid
  -- There is a password where one is declared in either way.
  have hdeclared : ∀ {security : Security}, es.spec.security = some security →
      (security.existingSecret.isSome || security.generatePassword) = security.hasPassword :=
    fun _ => Bool.or_comm _ _
  refine ⟨⟨?address, ?built, ?placed, ?scheme, ?secured, ?unsecured⟩, ?password⟩
  case address =>
    intro endpoint call answer hevent
    cases hsecurity : es.spec.security.filter Security.hasPassword with
    | none =>
      have hthrough := unsecured_through hns hname hsecurity generated σ s _ hevent
      rw [← Option.some.inj hthrough]
      rfl
    | some security => exact (login hns hname hsecurity generated σ s).address hevent
  case built =>
    intro role hrole
    obtain ⟨built, hbuilt, -⟩ := Manifest.Elasticsearch.statefulSet_eq_ok howner hrole
    exact ⟨built, hbuilt⟩
  case placed =>
    intro role built hbuilt
    obtain ⟨owner', _, _, _, _, howner', -, -, hmetadata, -⟩ :=
      Manifest.Elasticsearch.exists_of_statefulSet hbuilt
    cases howner.symm.trans howner'
    rw [hmetadata]
    rfl
  case scheme =>
    exact fun hbuilt => (Manifest.Elasticsearch.named_environment hname hbuilt).1
  case secured =>
    intro security hsecurity hpassword
    rw [hdeclared hsecurity] at hpassword
    have hfilter : es.spec.security.filter Security.hasPassword = some security := by
      rw [hsecurity, Option.filter_some, if_pos hpassword]
    refine ⟨login hns hname hfilter generated σ s, fun {role built} hbuilt => ?_⟩
    rw [(Manifest.Elasticsearch.named_environment hname hbuilt).2, hsecurity]
    exact if_pos hpassword
  case unsecured =>
    intro hnone
    have hfilter : es.spec.security.filter Security.hasPassword = none := by
      rw [Option.filter_eq_none_iff]
      intro security hsecurity
      rw [← hdeclared hsecurity, hnone security hsecurity]
      exact Bool.false_ne_true
    constructor
    · intro endpoint call answer hevent
      have hthrough := unsecured_through hns hname hfilter generated σ s _ hevent
      rw [← Option.some.inj hthrough]
      exact ⟨rfl, rfl⟩
    · intro role built hbuilt
      rw [(Manifest.Elasticsearch.named_environment hname hbuilt).2]
      unfold Manifest.Elasticsearch.passwordVars
      split
      · next security hsecurity =>
        rw [← hdeclared hsecurity, hnone security hsecurity]
        rfl
      · rfl
  case password =>
    intro password
    refine ⟨_, Manifest.Elasticsearch.passwordSecret_eq_ok howner password, ?_⟩
    rw [← Secret.text?_eq_some_iff, Secret.text?_toJson, if_pos rfl]
    exact Text.Base64.text?_bytes password

/-- A search cluster with a generated password. -/
def passwordCluster : LoggingOperator.Elasticsearch where
  metadata := { ns := some "logs", name := some "search", uid := some "7f3a" }
  spec := {
    clusterName := "search"
    version := "7.17.0"
    security := some { generatePassword := true } }

/-- A pass over it that finds the password of an earlier pass. -/
theorem one_password_passwordCluster :
    OnePassword passwordCluster "logs" "search"
        ((run passwordCluster "first").course .refusing passwordWorld.store)
      ∧ ∀ password, ∃ built,
        Manifest.Elasticsearch.passwordSecret passwordCluster password = .ok built
          ∧ Secret.Holds built.toJson "password" password :=
  one_password rfl rfl rfl "first" .refusing passwordWorld.store

end Elasticsearch

end Pass

end LoggingOperator
