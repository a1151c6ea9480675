/-
  LoggingOperator.Proofs.Pass.Order — THE ORDER OF A PASS.

  A pass over a search cluster brings the declared objects to what is declared
  one after the other: the secrets, and then the workload and the two services
  of each role (`InTurn`).  Then it reads the password, probes the cluster, sees
  to the token and writes the status.

  Where no call to the object store fails, nothing else can stop it: everything
  that is generated can be written, and errors of the management API are
  forgiven (`course_run`).  Where a call fails with an error that is not
  `Tolerated`, it is the last one (`pass_in_order`).  Both are put together from
  the parts of a pass: `Completes` and `Stops` are closed under `bind`.
-/
import LoggingOperator.Proofs.Pass.Phases
import LoggingOperator.Proofs.Pass.TokenTurns

namespace LoggingOperator

open Convergence (converge ensureOnce Outcome withLastApplied)
open Management (Endpoint)
open Program

namespace Pass

variable {α β : Type}

/-! ## §1. The calls for one object -/

/-- The calls that bring the object of a goal to what is declared: it is looked
    for, and written if need be. -/
inductive Tends (g : Goal) : List Event → Prop
  | kept {stored : Json} : Tends g [.store (.get g.kind g.name g.ns) (.ok stored)]
  | created {e : StoreError} {object stored : Json} (missing : e.isNotFound = true)
    (named : object.name = .ok g.name) (placed : object.namespace? = g.ns) :
    Tends g [.store (.get g.kind g.name g.ns) (.error e),
      .store (.create g.kind object) (.ok stored)]
  | updated {found object stored : Json} (many : g.once = false)
    (named : object.name = .ok g.name) (placed : object.namespace? = g.ns) :
    Tends g [.store (.get g.kind g.name g.ns) (.ok found),
      .store (.update g.kind object) (.ok stored)]

/-- The calls for one goal after the other. -/
inductive InTurn : List Goal → List Event → Prop
  | nil : InTurn [] []
  | cons {g : Goal} {goals : List Goal} {events later : List Event} (first : Tends g events)
    (rest : InTurn goals later) : InTurn (g :: goals) (events ++ later)

theorem InTurn.append {goals goals' : List Goal} {events events' : List Event}
    (h : InTurn goals events) (h' : InTurn goals' events') :
    InTurn (goals ++ goals') (events ++ events') := by
  induction h with
  | nil => exact h'
  | cons first _ ih =>
    rw [List.append_assoc]
    exact .cons first ih

/-- Where no call fails, the part of a pass brings the objects of these goals to
    what is declared, one after the other, and comes to its end. -/
def Completes (goals : List Goal) (p : Pass α) : Prop :=
  ∀ σ : Script, σ.Quiet → ∀ s, ∃ events a t,
    p.course σ s = ⟨events, .ok a, t⟩ ∧ InTurn goals events

theorem completes_done (a : α) : Completes [] (.done a : Pass α) :=
  fun _ _ s => ⟨[], a, s, rfl, .nil⟩

theorem Completes.bind {goals goals' : List Goal} {p : Pass α} {f : α → Pass β}
    (hp : Completes goals p) (hf : ∀ a, Completes goals' (f a)) :
    Completes (goals ++ goals') (p.bind f) := by
  intro σ hσ s
  obtain ⟨events, a, t, hcourse, hevents⟩ := hp σ hσ s
  obtain ⟨events', b, t', hcourse', hevents'⟩ := hf a _ (hσ.later events.length) t
  refine ⟨events ++ events', b, t', ?_, hevents.append hevents'⟩
  rw [course_bind_of_ok hcourse, hcourse']
  rfl

/-- A call to the object store that is carried out. -/
theorem course_store_of_act {ε : Type} {call : StoreCall} {name : String}
    (hname : call.name = .ok name) {σ : Script} (hσ : σ.Quiet) {s after : Store}
    {answer : Except StoreError Json} {next : Except StoreError Json → Program ε α}
    (hact : (s.noted call name).act call (StoreKey.of call.kind call.ns? name) = (answer, after)) :
    (Program.store call next).course σ s
      = ((next answer).course (σ.later 1) after).after [.store call answer] := by
  simp only [course, hσ 0, Store.answer_inject_none hname, hact]

/-- What no call writes stays as it is. -/
theorem object?_replay {key : StoreKey} {events : List Event} {s : Store}
    (h : ∀ event ∈ events, event.Beside key.kind) :
    (s.replay events).object? key = s.object? key := by
  induction events generalizing s with
  | nil => rfl
  | cons event events ih =>
    obtain ⟨hevent, hevents⟩ := List.forall_mem_cons.1 h
    cases event with
    | store call answer =>
      refine (ih hevents).trans ((Store.answered rfl).object?_eq fun name stored _ hwrite _ => ?_)
      rintro rfl
      rcases hevent with hget | hkind
      · rw [hget] at hwrite
        cases hwrite
      · exact hkind rfl
    | _ => exact ih hevents

/-- To look for the object of a goal. -/
theorem course_read {ε : Type} (g : Goal) {σ : Script} (hσ : σ.Quiet) (s : Store)
    {next : Except StoreError Json → Program ε α} :
    (Program.store (.get g.kind g.name g.ns) next).course σ s
      = ((next (s.get g.kind g.key)).course (σ.later 1)
          (s.noted (.get g.kind g.name g.ns) g.name)).after
          [.store (.get g.kind g.name g.ns) (s.get g.kind g.key)] :=
  @course_store_of_act _ _ (.get g.kind g.name g.ns) _ rfl _ hσ _ _ _ _ rfl

section Objects

variable {g : Goal} {desired : Json} {σ : Script}

/-- **An object that may be changed later is brought to what is declared.** -/
theorem completes_converge (hg : Generated g desired) (hmany : g.once = false) :
    Completes [g] (ofStore (converge g.kind desired)) := by
  intro σ hσ s
  -- It suffices to find the calls; renaming errors changes none of them.
  suffices h : ∃ events outcome t,
      (converge g.kind desired).course σ s = ⟨events, .ok outcome, t⟩ ∧ Tends g events by
    obtain ⟨events, outcome, t, hcourse, htends⟩ := h
    refine ⟨events ++ [], outcome, t, ?_, .cons htends .nil⟩
    rw [ofStore, course_mapError, hcourse, List.append_nil]
    rfl
  have hkey : Convergence.keyOf g.kind desired g.name = g.key := by
    rw [Convergence.keyOf, hg.placed]
    rfl
  have hstored : Convergence.stored? (s.get g.kind g.key) = .ok (s.object? g.key) := by
    rw [Store.get]
    cases s.object? g.key <;> rfl
  simp only [converge, hg.named, hg.placed]
  rw [course_read g hσ, hstored]
  dsimp only
  -- The write that is asked for can be built and is accepted.
  cases hwrite : Convergence.writeFor g.kind desired (s.object? g.key) with
  | error e =>
    obtain ⟨object, hobject⟩ := hg.recordable
    cases (Convergence.writeFor_eq_error hwrite).2.symm.trans hobject
  | ok call? =>
    rcases Convergence.writeFor_eq_ok hg.named (hkey ▸ hwrite) with
      ⟨rfl, stored, hfound, -⟩ | ⟨call, rfl, hcall, -, -, haccepts⟩
    · rw [hkey] at hfound
      refine ⟨[.store (.get g.kind g.name g.ns) (.ok stored)],
        ⟨g.kind, g.name, Convergence.decide g.kind desired (some stored)⟩,
        s.noted (.get g.kind g.name g.ns) g.name, ?_, .kept⟩
      rw [Convergence.settle, hwrite, Store.get, hfound]
      rfl
    · obtain ⟨after, next, hact, -, -, -⟩ :=
        haccepts ((s.noted (.get g.kind g.name g.ns) g.name).noted call g.name) rfl
      have hsettle : (Convergence.settle g.kind g.name desired (s.object? g.key)).course
          (σ.later 1) (s.noted (.get g.kind g.name g.ns) g.name)
          = ⟨[.store call (.ok after)],
            .ok ⟨g.kind, g.name, Convergence.decide g.kind desired (s.object? g.key)⟩, next⟩ := by
        rw [Convergence.settle, hwrite]
        dsimp only
        rw [course_store_of_act hcall (hσ.later 1) hact]
        rfl
      rw [hsettle]
      refine ⟨_, _, _, rfl, ?_⟩
      have hwrites := Convergence.writesFor_of_writeFor hwrite
      generalize hfound : s.object? g.key = stored at hwrites
      cases hwrites with
      | create prepared =>
        rw [Store.get, hfound]
        exact .created (e := .notFound g.kind g.key.name) rfl ((Convergence.name_withLastApplied prepared).trans hg.named)
          ((Convergence.namespace?_withLastApplied prepared).trans hg.placed)
      | update prepared =>
        rw [Store.get, hfound]
        exact .updated hmany ((Convergence.name_prepareUpdate prepared).trans hg.named)
          ((Convergence.namespace?_prepareUpdate prepared).trans hg.placed)

/-- An object is created where there is none. -/
theorem course_createOnce (hg : Generated g desired) (hσ : σ.Quiet) {s : Store}
    (habsent : s.object? g.key = none) :
    ∃ object stored outcome t,
      (Convergence.createOnce PassError.store g.kind g.name desired).course σ s
        = ⟨[.store (.create g.kind object) (.ok stored)], .ok outcome, t⟩
      ∧ object.name = .ok g.name ∧ object.namespace? = g.ns := by
  obtain ⟨object, hobject⟩ := hg.recordable
  have hname : object.name = .ok g.name := (Convergence.name_withLastApplied hobject).trans hg.named
  have hns : object.namespace? = g.ns :=
    (Convergence.namespace?_withLastApplied hobject).trans hg.placed
  obtain ⟨stored, t, hact⟩ : ∃ stored t, (s.noted (.create g.kind object) g.name).act
      (.create g.kind object) (StoreKey.of g.kind object.namespace? g.name) = (.ok stored, t) := by
    rw [hns]
    exact ⟨_, _, Store.create_of_absent (s := s.noted (.create g.kind object) g.name)
      habsent object⟩
  refine ⟨object, stored, ⟨g.kind, g.name, .create⟩, t, ?_, hname, hns⟩
  rw [Convergence.createOnce, Convergence.prepareCreate, hobject]
  dsimp only
  rw [course_store_of_act (show (StoreCall.create g.kind object).name = _ from hname) hσ hact]
  rfl

/-- **An object that is created once is there afterwards.** -/
theorem completes_ensureOnce (hg : Generated g desired) {build : Pass Json}
    (hbuild : build = .done desired) :
    Completes [g] (ensureOnce PassError.store g.kind g.name g.ns build) := by
  intro σ hσ s
  suffices h : ∃ events outcome t,
      (ensureOnce PassError.store g.kind g.name g.ns build).course σ s = ⟨events, .ok outcome, t⟩
        ∧ Tends g events by
    obtain ⟨events, outcome, t, hcourse, htends⟩ := h
    exact ⟨events ++ [], outcome, t, by rw [hcourse, List.append_nil], .cons htends .nil⟩
  subst hbuild
  rw [ensureOnce, course_read g hσ, Store.get]
  cases hfound : s.object? g.key with
  | some stored => exact ⟨_, _, _, rfl, .kept⟩
  | none =>
    obtain ⟨object, stored, outcome, t, hcourse, hname, hns⟩ :=
      course_createOnce hg (hσ.later 1) (s := s.noted (.get g.kind g.name g.ns) g.name) hfound
    refine ⟨[.store (.get g.kind g.name g.ns) (.error (.notFound g.kind g.key.name)),
      .store (.create g.kind object) (.ok stored)], outcome, t, ?_, .created rfl hname hns⟩
    show ((Convergence.createOnce PassError.store g.kind g.name desired).course (σ.later 1)
      _).after _ = _
    rw [hcourse]
    rfl

/-! ## §2. Where a call fails -/

/-- With which errors a call may fail without stopping a pass: what is not found
    is created, a secret that was created by somebody else is as good, and a
    status write may lose a race. -/
def Tolerated (call : StoreCall) (e : StoreError) : Prop :=
  match call.op with
  | .get => e.isNotFound = true
  | .create => call.kind = .secret ∧ ∃ kind name, e = .alreadyExists kind name
  | .update => False
  | .updateStatus => e.isConflict = true

theorem stored?_of_not_tolerated {e : StoreError} (h : ¬ e.isNotFound = true) :
    Convergence.stored? (.error e) = .error e := by
  rw [Convergence.stored?, if_neg h]

/-- To bring an object to what is declared stops at every other failure. -/
theorem stops_converge {kind : Kind} (hg : Generated g desired) :
    (ofStore (converge kind desired)).Stops .store Tolerated := by
  suffices h : (converge kind desired).Stops id Tolerated from h.mapError fun _ => rfl
  rw [converge, hg.named]
  -- The read tolerates that nothing is found, and nothing else.
  refine .store ⟨_, rfl⟩ (fun e he => ?_) fun answer => ?_
  · rw [stored?_of_not_tolerated he]
    rfl
  · cases hstored : Convergence.stored? answer with
    | error e => exact .fail e
    | ok stored =>
      show (Convergence.settle kind g.name desired stored).Stops id Tolerated
      unfold Convergence.settle
      cases hwrite : Convergence.writeFor kind desired stored with
      | error e => exact .fail e
      | ok call? =>
        cases call? with
        | none => exact .done _
        | some call =>
          -- What is written has the name of the goal, so the call is made.
          have hname : call.name = .ok g.name := by
            have hwrites := Convergence.writesFor_of_writeFor hwrite
            cases hwrites with
            | create prepared => exact (Convergence.name_withLastApplied prepared).trans hg.named
            | update prepared => exact (Convergence.name_prepareUpdate prepared).trans hg.named
          refine .store ⟨_, hname⟩ (fun _ _ => rfl) fun answer => ?_
          cases answer with
          | ok _ => exact .done _
          | error e => exact .fail e

theorem stops_createOnce (hg : Generated g desired) (name : String) :
    (Convergence.createOnce PassError.store .secret name desired).Stops .store Tolerated := by
  obtain ⟨object, hobject⟩ := hg.recordable
  have hname : object.name = .ok g.name := (Convergence.name_withLastApplied hobject).trans hg.named
  rw [Convergence.createOnce, Convergence.prepareCreate, hobject]
  refine .store ⟨_, hname⟩ (fun e he => ?_) fun answer => ?_
  · cases e with
    | alreadyExists kind name => exact absurd ⟨rfl, kind, name, rfl⟩ he
    | _ => rfl
  · split
    · exact .done _
    · exact .done _
    · exact .fail _

/-- To create a secret once stops at every other failure. -/
theorem stops_ensureOnce {name : String} {ns : Option String} {build : Pass Json}
    (hbuild : (build.bind (Convergence.createOnce PassError.store .secret name)).Stops .store
      Tolerated) :
    (ensureOnce PassError.store .secret name ns build).Stops .store Tolerated := by
  refine .store ⟨_, rfl⟩ (fun e he => ?_) fun answer => ?_
  · rw [stored?_of_not_tolerated he]
  · cases hstored : Convergence.stored? answer with
    | error e => exact .fail _
    | ok stored =>
      cases stored with
      | some _ => exact .done _
      | none => exact hbuild

end Objects

namespace Elasticsearch

open Manifest.Elasticsearch

variable {es : LoggingOperator.Elasticsearch} {owner : Owner} (generated : String)

/-! ## §3. Setting up -/

/-- The objects that a role asks for, in the order they are set up. -/
def roleParts (role : Role) : List Part :=
  [.workload role, .routable role, .headless role]

/-- The secrets that are declared, the password first. -/
def secretParts (password tls : Bool) : List Part :=
  (if password then [.password] else []) ++ (if tls then [.certificate] else [])

/-- The objects that a pass sets up, in order: the declared secrets, and then the
    objects of the master role and of each other role that is declared. -/
def setUpParts (es : LoggingOperator.Elasticsearch) : List Part :=
  secretParts (es.spec.security.any Security.needsPassword) es.spec.tls
    ++ roleParts .master
    ++ ([.data, .ingestion, .client].filter fun role => (es.spec.nodes? role).isSome).flatMap
      roleParts

theorem setUpParts_eq (es : LoggingOperator.Elasticsearch) :
    setUpParts es = secretParts (es.spec.security.any Security.needsPassword) es.spec.tls
      ++ es.spec.roles.flatMap roleParts := by
  have hroles : es.spec.roles = .master :: [.data, .ingestion, .client].filter
      fun role => (es.spec.nodes? role).isSome := rfl
  rw [setUpParts, hroles, List.flatMap_cons, List.append_assoc]

variable (howner : Owner.ofMetadata .elasticsearch es.metadata = .ok owner)
include howner

theorem completes_setUpSecurity (tls password : Bool) :
    Completes ((secretParts password tls).map (Part.goal owner))
      (setUpSecurity es owner.ns generated tls password) := by
  have hid := id_eq howner
  have hpassword : Completes [Part.goal owner .password]
      (ensureSecret (Naming.passwordSecret owner.name) owner.ns
        (ofBuild ((passwordSecret es generated).map Secret.toJson))) :=
    completes_ensureOnce (Secret.generated rfl true)
      (by rw [passwordSecret_eq_ok howner generated]; rfl)
  have hcertificate : Completes [Part.goal owner .certificate]
      (ensureSecret (Naming.certificateSecret owner.name) owner.ns
        (ofBuild ((certificateSecret es).map Secret.toJson))) :=
    completes_ensureOnce (Secret.generated rfl true)
      (by rw [certificateSecret_eq_ok howner]; rfl)
  -- Whatever was done about the password, the certificate comes next.
  have hcertificates : ∀ passwords : List Outcome,
      Completes ((if tls then [Part.certificate] else []).map (Part.goal owner))
        (if tls = true then
          (ensureSecret (Naming.certificateSecret owner.name) owner.ns
            (ofBuild ((certificateSecret es).map Secret.toJson))).bind
              fun outcome => .done (passwords ++ [outcome])
        else .done (passwords ++ [])) := by
    intro passwords
    split
    · exact hcertificate.bind fun _ => completes_done _
    · exact completes_done _
  simp only [setUpSecurity, bind_eq, pure_eq, done_bind, hid, secretParts, List.map_append]
  split
  · exact hpassword.bind fun outcome => hcertificates [outcome]
  · exact hcertificates []

theorem completes_setUpRole {role : Role} (hrole : (es.spec.nodes? role).isSome = true) :
    Completes ((roleParts role).map (Part.goal owner)) (setUpRole es role) := by
  obtain ⟨workload, hworkload, hmetadata⟩ := statefulSet_eq_ok howner hrole
  obtain ⟨routable, headless, hservices, hroutable, hheadless⟩ := services_eq_ok howner role
  have hfirst : Completes [Part.goal owner (.workload role)]
      (ofStore (converge .statefulSet workload.toJson)) :=
    completes_converge (StatefulSet.generated hmetadata false) rfl
  have hsecond : Completes [Part.goal owner (.routable role)]
      (ofStore (converge .service routable.toJson)) :=
    completes_converge (Service.generated hroutable false) rfl
  have hthird : Completes [Part.goal owner (.headless role)]
      (ofStore (converge .service headless.toJson)) :=
    completes_converge (Service.generated hheadless false) rfl
  simp only [setUpRole, bind_eq, pure_eq, hworkload, hservices, ofBuild, Program.ofExcept,
    done_bind]
  exact hfirst.bind fun _ => hsecond.bind fun _ => hthird.bind fun _ => completes_done _

theorem completes_securitySteps (p : Progress) :
    Completes ((secretParts (es.spec.security.any Security.needsPassword) es.spec.tls).map
        (Part.goal owner))
      (takeSteps es owner.ns generated es.spec.securitySteps p) := by
  unfold ElasticsearchSpec.securitySteps ElasticsearchSpec.tls
  cases es.spec.security with
  | none => exact completes_done _
  | some security =>
    dsimp only [Option.any_some]
    split
    · simp only [takeSteps, takeStep, bind_eq, pure_eq, Program.bind_assoc, done_bind]
      have h := (completes_setUpSecurity generated howner security.tls
        security.needsPassword).bind
        fun outcomes => completes_done ((p.started
          (.securitySetup security.tls security.needsPassword)).did outcomes)
      rwa [List.append_nil] at h
    · next hflags =>
      rw [Bool.or_eq_true, not_or, Bool.not_eq_true, Bool.not_eq_true] at hflags
      rw [hflags.1, hflags.2]
      exact completes_done _

theorem completes_roleSteps {roles : List Role}
    (hroles : ∀ role ∈ roles, (es.spec.nodes? role).isSome = true) (p : Progress) :
    Completes ((roles.flatMap roleParts).map (Part.goal owner))
      (takeSteps es owner.ns generated (roles.map .roleReady) p) := by
  induction roles generalizing p with
  | nil => exact completes_done _
  | cons role roles ih =>
    obtain ⟨hrole, hroles⟩ := List.forall_mem_cons.1 hroles
    simp only [List.map_cons, takeSteps, takeStep, bind_eq, pure_eq, Program.bind_assoc,
      done_bind, List.flatMap_cons, List.map_append]
    exact (completes_setUpRole howner hrole).bind fun outcomes => ih hroles _

/-- **The objects of a search cluster are set up in order.** -/
theorem completes_setUp (p : Progress) :
    Completes ((setUpParts es).map (Part.goal owner))
      (takeSteps es owner.ns generated (setUpSteps es) p) := by
  rw [setUpSteps, takeSteps_append, setUpParts_eq, List.map_append]
  exact (completes_securitySteps generated howner p).bind fun p =>
    completes_roleSteps generated howner (fun _ hrole => ElasticsearchSpec.mem_roles.1 hrole) p

omit howner

/-! ## §4. The token and the status -/

section Closing

variable {σ : Script} {s : Store}

/-- To issue a token ends with the token or with an error of the management API,
    which is not for a pass to stop at. -/
theorem Issues.result_eq {endpoint : Endpoint} {token : Management.TokenId} {events : List Event}
    {r : Except PassError Management.ServiceToken} (h : Issues endpoint token events r) :
    (∃ issued, r = .ok issued) ∨ ∃ e, r = .error (.management e) := by
  cases h with
  | issued issued => exact Or.inl ⟨issued, rfl⟩
  | refused _ => exact Or.inr ⟨_, rfl⟩
  | kept _ => exact Or.inr ⟨_, rfl⟩
  | @again e answer _ =>
    cases answer with
    | ok issued => exact Or.inl ⟨issued, rfl⟩
    | error e => exact Or.inr ⟨e, rfl⟩

/-- To issue a token leaves the object store alone. -/
theorem Issues.replay_eq {endpoint : Endpoint} {token : Management.TokenId} {events : List Event}
    {r : Except PassError Management.ServiceToken} (h : Issues endpoint token events r)
    (s : Store) : s.replay events = s := by
  cases h <;> rfl

/-- A part of a pass that fails only with errors of the management API ends well
    where these are forgiven. -/
theorem forgiven {p : Pass Outcome}
    (h : (∃ outcome, (p.course σ s).result = .ok outcome)
      ∨ ∃ e, (p.course σ s).result = .error (.management e)) :
    ∃ outcomes, ((forgiveManagement p).course σ s).result = .ok outcomes := by
  rw [forgiveManagement, course_handle, course_bind]
  generalize p.course σ s = c at h
  obtain ⟨events, r, t⟩ := c
  rcases h with ⟨outcome, rfl⟩ | ⟨e, rfl⟩
  · exact ⟨[outcome], rfl⟩
  · exact ⟨[], rfl⟩

/-- **A token is issued and kept**, unless the management API refuses. -/
theorem course_ensureToken (howner : Owner.ofMetadata .elasticsearch es.metadata = .ok owner)
    (hσ : σ.Quiet) (endpoint : Endpoint) (integration : ServiceIntegration) :
    (∃ outcome, ((ensureToken es owner.ns endpoint integration).course σ s).result = .ok outcome)
      ∨ ∃ e, ((ensureToken es owner.ns endpoint integration).course σ s).result
        = .error (.management e) := by
  let g := Part.goal owner .token
  let build : Pass Json := (issueToken endpoint (tokenId integration)).bind fun issued =>
    ofBuild ((tokenSecret es issued.value).map Secret.toJson)
  have hensure : ensureToken es owner.ns endpoint integration
      = ensureOnce .store g.kind g.name g.ns build := by
    rw [ensureToken, ensureSecret, id_eq howner]
    rfl
  rw [hensure, ensureOnce, course_read g hσ, Store.get]
  cases hfound : s.object? g.key with
  | some stored => exact Or.inl ⟨_, rfl⟩
  | none =>
    -- Where there is no secret, the token is issued, and then the secret can be created.
    let s' := s.noted (.get g.kind g.name g.ns) g.name
    show (∃ outcome, ((build.bind (Convergence.createOnce .store g.kind g.name)).course
        (σ.later 1) s').result = .ok outcome)
      ∨ ∃ e, ((build.bind (Convergence.createOnce .store g.kind g.name)).course
        (σ.later 1) s').result = .error (.management e)
    have hissues := traces_issueToken (traces_course (issueToken endpoint (tokenId integration))
      (σ.later 1) s')
    have hstore := course_store (hσ.later 1) (issueToken endpoint (tokenId integration)) s'
    rw [hissues.replay_eq] at hstore
    generalize hcourse : (issueToken endpoint (tokenId integration)).course (σ.later 1) s' = c
      at hissues hstore
    obtain ⟨issues, r, t⟩ := c
    dsimp only at hissues hstore
    subst hstore
    rcases hissues.result_eq with ⟨issued, rfl⟩ | ⟨e, rfl⟩
    · obtain ⟨desired, hdesired, hgenerated⟩ : ∃ desired,
          ofBuild ((tokenSecret es issued.value).map Secret.toJson) = .done desired
            ∧ Generated g desired := by
        rw [tokenSecret_eq_ok howner]
        exact ⟨_, rfl, Secret.generated rfl true⟩
      have hbuild : build.course (σ.later 1) s' = ⟨issues ++ [], .ok desired, s'⟩ := by
        rw [course_bind_of_ok hcourse, hdesired]
        rfl
      obtain ⟨object, stored, outcome, t, hcreate, -⟩ := course_createOnce hgenerated
        ((hσ.later 1).later (issues ++ []).length) (s := s') hfound
      refine Or.inl ⟨outcome, ?_⟩
      rw [course_bind_of_ok hbuild, hcreate]
      rfl
    · refine Or.inr ⟨e, ?_⟩
      rw [course_bind_of_error (course_bind_of_error hcourse _)]

/-- The token phase comes to its end, whatever the management API answers. -/
theorem course_setUpToken (howner : Owner.ofMetadata .elasticsearch es.metadata = .ok owner)
    (hσ : σ.Quiet) (p : Progress) :
    ∃ outcomes, ((setUpToken es owner.ns p).course σ s).result = .ok outcomes := by
  unfold setUpToken
  split
  · exact forgiven (course_ensureToken howner hσ _ _)
  · exact ⟨[], rfl⟩

/-- **The status write comes to its end** where the declaration is stored: it is
    carried out, or it loses a race. -/
theorem course_writeStatus (howner : Owner.ofMetadata .elasticsearch es.metadata = .ok owner)
    (hσ : σ.Quiet) {current : Json}
    (hheld : s.object? (StoreKey.of .elasticsearch (some owner.ns) owner.name) = some current)
    (status : Json) :
    ∃ conflict, ((writeStatus .elasticsearch es.toJson status).course σ s).result
      = .ok conflict := by
  obtain ⟨hns, hname⟩ := Owner.of_ofMetadata howner
  let call : StoreCall := .replaceStatus .elasticsearch (es.toJson.set "status" status)
  have hcall : call.name = .ok owner.name := name_sent es status hname
  have hact := Store.acted call (StoreKey.of call.kind call.ns? owner.name)
    (s.noted call owner.name)
  -- The status is written to where the declaration is stored.
  have hkey : StoreKey.of call.kind call.ns? owner.name
      = StoreKey.of .elasticsearch (some owner.ns) owner.name := by
    show StoreKey.of .elasticsearch (es.toJson.set "status" status).namespace? owner.name = _
    rw [show (es.toJson.set "status" status).namespace? = _ from namespace?_sent es status hns]
  rw [hkey] at hact
  generalize hanswer : (s.noted call owner.name).act call
    (StoreKey.of .elasticsearch (some owner.ns) owner.name) = acted at hact
  obtain ⟨answer, after⟩ := acted
  rw [writeStatus, course_store_of_act hcall hσ (hkey ▸ hanswer)]
  change Store.Acted _ _ (.replaceStatus _ _) _ _ at hact
  cases hact with
  | missing _ absent =>
    rw [Store.object?_noted, hheld] at absent
    cases absent
  | staleStatus _ _ => exact ⟨true, rfl⟩
  | restated _ _ => exact ⟨false, rfl⟩

end Closing

/-! ## §5. Where no call fails -/

section Pass

variable {σ : Script} {s : Store}

/-- The steps after the probe come to their end. -/
theorem course_closingSteps (howner : Owner.ofMetadata .elasticsearch es.metadata = .ok owner)
    (hσ : σ.Quiet) {current : Json}
    (hheld : s.object? (StoreKey.of .elasticsearch (some owner.ns) owner.name) = some current)
    (p : Progress) :
    ∃ report, (((takeSteps es owner.ns generated (closingSteps es) p).bind
      fun p => .done p.report).course σ s).result = .ok report := by
  have hns := (Owner.of_ofMetadata howner).1
  have hstatus : ∀ {σ : Script} {s : Store} (p : Progress), σ.Quiet →
      s.object? (StoreKey.of .elasticsearch (some owner.ns) owner.name) = some current →
      ∃ report, (((takeSteps es owner.ns generated [.statusWritten] p).bind
        fun p => .done p.report).course σ s).result = .ok report := by
    intro σ s p hσ hheld
    obtain ⟨conflict, hconflict⟩ := course_writeStatus howner hσ hheld
      (status es (p.started .statusWritten).report).toJson
    simp only [takeSteps, takeStep, bind_eq, pure_eq, Program.bind_assoc, done_bind]
    rw [course_bind_of_result hconflict]
    exact ⟨_, rfl⟩
  unfold closingSteps
  split
  · obtain ⟨outcomes, houtcomes⟩ := course_setUpToken (s := s) howner hσ (p.started .tokenIssue)
    -- The token phase leaves the declaration alone.
    have htoken := traces_setUpToken hns
      (traces_course (setUpToken es owner.ns (p.started .tokenIssue)) σ s)
    have hheld' : (s.replay _).object? (StoreKey.of .elasticsearch (some owner.ns) owner.name)
        = s.object? _ := object?_replay htoken.beside
    rw [← course_store hσ, hheld] at hheld'
    rw [List.singleton_append, takeSteps, takeStep]
    simp only [bind_eq, pure_eq, Program.bind_assoc, done_bind]
    rw [course_bind_of_result houtcomes]
    dsimp only [Course.after]
    exact hstatus _ (hσ.later _) hheld'
  · exact hstatus p hσ hheld

/-- The probe and what comes after it, for a cluster that was found or not. -/
def finish (es : LoggingOperator.Elasticsearch) (ns generated : String) (p : Progress)
    (found : Option Endpoint) : Pass Report :=
  (probe found).bind fun told =>
    (takeSteps es ns generated (closingSteps es) (p.probed found told)).bind
      fun p => .done p.report

/-- **From the probe on, a pass comes to its end** where the declaration is
    stored, whatever the management API answers. -/
theorem course_finish (howner : Owner.ofMetadata .elasticsearch es.metadata = .ok owner)
    (hσ : σ.Quiet) {current : Json}
    (hheld : s.object? (StoreKey.of .elasticsearch (some owner.ns) owner.name) = some current)
    (p : Progress) (found : Option Endpoint) :
    ∃ probe token told answer report t,
      (finish es owner.ns generated p found).course σ s
        = ⟨probe ++ token ++ [lastCall es told answer], .ok report, t⟩
      ∧ Probes found probe told ∧ Token es owner.ns found told.1 token := by
  obtain ⟨told, htold, hprobe⟩ := traces_probe (traces_course (probe found) σ s)
  -- The probe leaves the declaration where it is.
  have hheld' : ((probe found).course σ s).store.object?
      (StoreKey.of .elasticsearch (some owner.ns) owner.name) = some current := by
    rw [course_store hσ, object?_replay (hprobe.beside _), hheld]
  rw [finish, course_bind_of_result htold]
  generalize (probe found).course σ s = probed at hprobe hheld' ⊢
  obtain ⟨report, hreport⟩ := course_closingSteps generated howner
    (hσ.later probed.events.length) hheld' (p.probed found told)
  have htraces := traces_course ((takeSteps es owner.ns generated (closingSteps es)
    (p.probed found told)).bind fun p => .done p.report) (σ.later probed.events.length) probed.store
  generalize ((takeSteps es owner.ns generated (closingSteps es) (p.probed found told)).bind
    fun p => .done p.report).course (σ.later probed.events.length) probed.store = rest
    at hreport htraces ⊢
  obtain ⟨events, r, t⟩ := rest
  subst hreport
  -- The rest ends well, so the status write is among its calls.
  obtain ⟨token, last, rfl, htoken, hlast⟩ :=
    traces_closing (Owner.of_ofMetadata howner).1 htraces
  rcases hlast with ⟨-, _, h⟩ | ⟨answer, rfl, -⟩
  · cases h
  · refine ⟨probed.events, token, told, answer, report, t, ?_, hprobe, htoken⟩
    rw [Course.after, List.append_assoc]
    rfl

/-- **Up to the probe**, a pass sets up its objects and reads the password.  Where
    no call fails, what it does does not depend on the management API. -/
theorem course_before (howner : Owner.ofMetadata .elasticsearch es.metadata = .ok owner)
    {current : Json}
    (hheld : s.object? (StoreKey.of .elasticsearch (some owner.ns) owner.name) = some current) :
    ∃ setup p between reading found t,
      (∀ σ : Script, σ.Quiet → (takeSteps es owner.ns generated (setUpSteps es) {}).course σ s
        = ⟨setup, .ok p, between⟩)
      ∧ (∀ σ : Script, σ.Quiet →
        (endpoint es owner.ns).course σ between = ⟨reading, .ok found, t⟩)
      ∧ InTurn ((setUpParts es).map (Part.goal owner)) setup ∧ Reads es owner.ns reading
      ∧ (∀ event ∈ setup ++ reading, event.Beside .elasticsearch)
      ∧ t.object? (StoreKey.of .elasticsearch (some owner.ns) owner.name) = some current := by
  -- Any quiet script will do.
  obtain ⟨σ₀, hquiet⟩ : ∃ σ : Script, σ.Quiet := ⟨_, Script.quiet_refusing⟩
  have hsame : ∀ {α : Type} {p : Pass α} {σ : Script}, σ.Quiet → Keeps Preparing p → ∀ s,
      p.course σ s = p.course σ₀ s := by
    intro α p σ hσ hp s
    exact course_congr (hp.storeOnly fun _ _ _ => id)
      (funext fun k => (hσ k).trans (hquiet k).symm) s
  have hbeside : ∀ {α : Type} {p : Pass α}, Keeps Preparing p → ∀ s : Store,
      ∀ event ∈ (p.course σ₀ s).events, event.Beside .elasticsearch :=
    fun hp s event hevent => ((hp.traces (traces_course _ σ₀ s)).1 event hevent).beside
  have hkept : ∀ {α : Type} {p : Pass α}, Keeps Preparing p → ∀ s : Store,
      (p.course σ₀ s).store.object? (StoreKey.of .elasticsearch (some owner.ns) owner.name)
        = s.object? (StoreKey.of .elasticsearch (some owner.ns) owner.name) := by
    intro α p hp s
    rw [course_store hquiet, object?_replay (hbeside hp s)]
  have hsetUp : Keeps Preparing (takeSteps es owner.ns generated (setUpSteps es) {}) := keeps_setUp _
  have hendpoint : Keeps Preparing (endpoint es owner.ns) := keeps_endpoint_preparing
  obtain ⟨setup, p, between, hcourse, hturn⟩ := completes_setUp generated howner {}
    σ₀ hquiet s
  obtain ⟨hreads, found, hfound⟩ :=
    traces_endpoint (traces_course (endpoint es owner.ns) σ₀ between)
  have hsetUpBeside := hbeside hsetUp s
  have hbetween := hkept hsetUp s
  rw [hcourse] at hsetUpBeside hbetween
  refine ⟨setup, p, between, ((endpoint es owner.ns).course σ₀ between).events, found,
    ((endpoint es owner.ns).course σ₀ between).store,
    fun σ hσ => (hsame hσ hsetUp s).trans hcourse, fun σ hσ => ?_, hturn, hreads,
    List.forall_mem_append.2 ⟨hsetUpBeside, hbeside hendpoint between⟩, ?_⟩
  · rw [hsame hσ hendpoint, ← hfound]
  · rw [hkept hendpoint, hbetween, hheld]

end Pass

/-! ## §6. Where one call fails -/

section Stops

variable (howner : Owner.ofMetadata .elasticsearch es.metadata = .ok owner)
include howner

omit howner in
/-- What is built for a secret can be created. -/
theorem stops_createSecret {built : Except BuildError Secret} {name key : String}
    {labels : StringMap} {value : List UInt8}
    (h : built = .ok { metadata := owner.metadata name labels, key, value }) (name' : String) :
    ((ofBuild (built.map Secret.toJson)).bind
      (Convergence.createOnce PassError.store .secret name')).Stops .store Tolerated := by
  have hdone : ∀ secret : Secret, ofBuild ((Except.ok secret).map Secret.toJson)
      = .done secret.toJson := fun _ => rfl
  rw [h, hdone, done_bind]
  exact stops_createOnce (g := ⟨.secret, some owner.ns, name, true⟩) (Secret.generated rfl true) _

theorem stops_setUpSecurity (tls password : Bool) :
    (setUpSecurity es owner.ns generated tls password).Stops .store Tolerated := by
  have hpassword : (ensureSecret (Naming.passwordSecret es.id) owner.ns
      (ofBuild ((passwordSecret es generated).map Secret.toJson))).Stops .store Tolerated :=
    stops_ensureOnce (stops_createSecret (passwordSecret_eq_ok howner generated) _)
  have hcertificate : (ensureSecret (Naming.certificateSecret es.id) owner.ns
      (ofBuild ((certificateSecret es).map Secret.toJson))).Stops .store Tolerated :=
    stops_ensureOnce (stops_createSecret (certificateSecret_eq_ok howner) _)
  exact setUpSecurity_induction .done hpassword.bind hcertificate.bind tls password

theorem stops_setUpRole {role : Role} (hrole : (es.spec.nodes? role).isSome = true) :
    (setUpRole es role).Stops .store Tolerated := by
  obtain ⟨workload, hworkload, hmetadata⟩ := statefulSet_eq_ok howner hrole
  obtain ⟨routable, headless, hservices, hroutable, hheadless⟩ := services_eq_ok howner role
  have hfirst : (ofStore (converge .statefulSet workload.toJson)).Stops .store Tolerated :=
    stops_converge (StatefulSet.generated hmetadata false)
  have hsecond : (ofStore (converge .service routable.toJson)).Stops .store Tolerated :=
    stops_converge (Service.generated hroutable false)
  have hthird : (ofStore (converge .service headless.toJson)).Stops .store Tolerated :=
    stops_converge (Service.generated hheadless false)
  simp only [setUpRole, bind_eq, pure_eq, hworkload, hservices, ofBuild, Program.ofExcept,
    done_bind]
  exact hfirst.bind fun _ => hsecond.bind fun _ => hthird.bind fun _ => .done _

/-- A pass that sets up its objects stops at every failure that it does not
    tolerate. -/
theorem stops_setUp (p : Progress) :
    (takeSteps es owner.ns generated (setUpSteps es) p).Stops .store Tolerated :=
  setUpSteps_induction .done Stops.bind
    (fun tls password _ => (stops_setUpSecurity generated howner tls password).bind fun _ => .done _)
    (fun _ _ hrole => (stops_setUpRole howner hrole).bind fun _ => .done _) p

omit howner in
theorem stops_issueToken {endpoint : Endpoint} {token : Management.TokenId} :
    (issueToken endpoint token).Stops .store Tolerated := by
  refine .manage fun answer => ?_
  cases answer with
  | ok issued => exact .done _
  | error e =>
    dsimp only
    split
    · refine .manage fun deleted => ?_
      cases deleted with
      | error e => exact .fail _
      | ok _ =>
        refine .manage fun answer => ?_
        cases answer with
        | ok issued => exact .done _
        | error e => exact .fail _
    · exact .fail _

theorem stops_setUpToken (p : Progress) :
    (setUpToken es owner.ns p).Stops .store Tolerated := by
  unfold setUpToken
  split
  · next endpoint integration _ _ _ =>
    have hensure : (ensureToken es owner.ns endpoint integration).Stops .store Tolerated := by
      refine stops_ensureOnce ?_
      simp only [bind_eq, Program.bind_assoc]
      exact stops_issueToken.bind fun issued =>
        stops_createSecret (tokenSecret_eq_ok howner issued.value) _
    -- Only errors of the management API are forgiven.
    refine (hensure.bind fun _ => .done _).handle (fun _ => rfl) fun e => ?_
    split
    · exact .done _
    · exact .fail _
  · exact .done _

omit howner in
theorem stops_writeStatus (hname : es.metadata.name = some name) (status : Json) :
    (writeStatus .elasticsearch es.toJson status).Stops .store Tolerated := by
  refine .store ⟨name, name_sent es status hname⟩ (fun e he => if_neg he) fun answer => ?_
  · cases answer with
    | ok _ => exact .done _
    | error e =>
      dsimp only
      split
      · exact .done _
      · exact .fail _

theorem stops_finish (p : Progress) (found : Option Endpoint) :
    (finish es owner.ns generated p found).Stops .store Tolerated := by
  have hname := (Owner.of_ofMetadata howner).2
  have hstatus : ∀ p : Progress,
      (takeSteps es owner.ns generated [.statusWritten] p).Stops .store Tolerated := by
    intro p
    simp only [takeSteps, takeStep, bind_eq, pure_eq, Program.bind_assoc, done_bind]
    exact (stops_writeStatus hname _).bind fun _ => .done _
  have hclosing : ∀ p : Progress,
      (takeSteps es owner.ns generated (closingSteps es) p).Stops .store Tolerated := by
    intro p
    unfold closingSteps
    split
    · simp only [List.singleton_append, takeSteps, takeStep, bind_eq, pure_eq, Program.bind_assoc,
        done_bind]
      refine (stops_setUpToken howner _).bind fun outcomes => ?_
      exact (stops_writeStatus hname _).bind fun _ => .done _
    · exact hstatus p
  have hprobe : (probe found).Stops .store Tolerated := by
    cases found with
    | none => exact .done _
    | some endpoint =>
      refine .manage fun answer => ?_
      cases answer with
      | ok _ => exact .done _
      | error _ => exact .done _
  exact hprobe.bind fun told => (hclosing _).bind fun _ => .done _

end Stops

/-! ## §7. The order of a pass -/

/-- The calls of a pass, phase by phase, and what its probe was told. -/
structure Phases where
  setup : List Event
  reading : List Event
  probe : List Event
  token : List Event
  told : Health × Option Int32
  /-- The answer to the status write. -/
  written : Except StoreError Json

namespace Phases

/-- All calls; the last one is the status write. -/
def events (es : LoggingOperator.Elasticsearch) (phases : Phases) : List Event :=
  phases.setup ++ phases.reading ++ phases.probe ++ phases.token
    ++ [lastCall es phases.told phases.written]

/-- Each phase does what it is there for. -/
structure InOrder (es : LoggingOperator.Elasticsearch) (owner : Owner) (found : Option Endpoint)
    (phases : Phases) : Prop where
  /-- The declared secrets, and then the workload, the routable and the headless
      service of each role. -/
  setup : InTurn ((setUpParts es).map (Part.goal owner)) phases.setup
  reading : Reads es owner.ns phases.reading
  /-- The health is asked for at most once. -/
  probe : Probes found phases.probe phases.told
  token : Token es owner.ns found phases.told.1 phases.token
  /-- Only the last call writes the declaration. -/
  beside : ∀ event ∈ phases.setup ++ phases.reading ++ phases.probe ++ phases.token,
    event.Beside .elasticsearch

/-- The call at this position reads the password, and may fail. -/
def ReadsAt (phases : Phases) (k : Nat) : Prop :=
  phases.setup.length ≤ k ∧ k < phases.setup.length + phases.reading.length

end Phases

/-- Where no call fails and the declaration is stored, a pass goes through its
    phases in order.  Up to the probe, what it does does not depend on what the
    management API answers.  Except where it reads the password, it stops at
    every failure that it does not tolerate. -/
theorem course_run (howner : Owner.ofMetadata .elasticsearch es.metadata = .ok owner)
    {s : Store}
    (hheld : (s.object? (StoreKey.of .elasticsearch (some owner.ns) owner.name)).isSome = true) :
    ∃ setup reading found, ∀ σ : Script, σ.Quiet → ∃ (phases : Phases) (report : Report),
      phases.setup = setup ∧ phases.reading = reading ∧ phases.InOrder es owner found
        ∧ ((run es generated).course σ s).events = phases.events es
        ∧ ((run es generated).course σ s).result = .ok report
        ∧ ∀ k, ¬ phases.ReadsAt k → StopsAt .store Tolerated (run es generated) σ s k := by
  have hns := (Owner.of_ofMetadata howner).1
  obtain ⟨current, hcurrent⟩ := Option.isSome_iff_exists.1 hheld
  obtain ⟨setup, p, between, reading, found, t, hsetup, hreading, hturn, hreads, hbeside, hheld'⟩ :=
    course_before generated howner hcurrent
  refine ⟨setup, reading, found, fun σ hσ => ?_⟩
  have hσ' : (σ.later setup.length).Quiet := hσ.later _
  obtain ⟨probe, token, told, written, report, last, hfinish, hprobe, htoken⟩ :=
    course_finish generated howner (hσ'.later reading.length) hheld' p found
  have hrest : ((endpoint es owner.ns).bind (finish es owner.ns generated p)).course
      (σ.later setup.length) between
      = ⟨reading ++ (probe ++ token ++ [lastCall es told written]), .ok report, last⟩ := by
    rw [course_bind_of_ok (hreading _ hσ'), hfinish]
    rfl
  have hrun : (run es generated).course σ s
      = ⟨setup ++ (reading ++ (probe ++ token ++ [lastCall es told written])), .ok report, last⟩ := by
    rw [run_eq_phases hns, course_bind_of_ok (hsetup σ hσ)]
    exact congrArg (Course.after setup) hrest
  refine ⟨⟨setup, reading, probe, token, told, written⟩, report, rfl, rfl,
    ⟨hturn, hreads, hprobe, htoken, ?_⟩, ?_, by rw [hrun], fun k hk => ?_⟩
  · rw [List.append_assoc]
    exact List.forall_mem_append.2
      ⟨hbeside, List.forall_mem_append.2 ⟨hprobe.beside _, htoken.beside⟩⟩
  · rw [hrun]
    simp only [Phases.events, List.append_assoc]
  · -- The failing call is one of those that set up, or one that comes after reading.
    have hright : ¬ (setup.length ≤ k ∧ k < setup.length + reading.length) := hk
    rw [run_eq_phases hns]
    by_cases hleft : k < setup.length
    · refine ((stops_setUp generated howner {}).stopsAt hσ s k).bind_left ?_ _
      rwa [hsetup σ hσ]
    · exact StopsAt.bind_right hσ (hsetup σ hσ) (by omega)
        (StopsAt.bind_right hσ' (hreading _ hσ') (by omega)
          ((stops_finish generated howner p found).stopsAt (hσ'.later _) t _))

/-- **The order of a pass.**  Where no call to the object store fails and the
    declaration is stored, a pass goes through its phases in order, whatever the
    management API answers, and ends well.  Where one call fails with an error
    that is not tolerated, the calls up to it are the same, it is the last one,
    the pass ends with this error, and what was written by then stays. -/
theorem pass_in_order {ns name uid : String} (hns : es.metadata.ns = some ns)
    (hname : es.metadata.name = some name) (huid : es.metadata.uid = some uid)
    {s : Store} (hheld : (s.object? (StoreKey.of .elasticsearch (some ns) name)).isSome = true)
    {σ : Script} (hσ : σ.Quiet) :
    ∃ (owner : Owner) (found : Option Endpoint) (phases : Phases) (report : Report),
      Owner.ofMetadata .elasticsearch es.metadata = .ok owner
        ∧ phases.InOrder es owner found
        ∧ ((run es generated).course σ s).events = phases.events es
        ∧ ((run es generated).course σ s).result = .ok report
        ∧ ∀ k call answer e, (phases.events es)[k]? = some (.store call answer) →
          ¬ phases.ReadsAt k → ¬ Tolerated call e →
          ((run es generated).course σ s).Stopped s k call e (.store e)
            ((run es generated).course (σ.failing k e) s) := by
  obtain ⟨owner, howner, rfl, rfl⟩ := Owner.ofMetadata_eq_ok hns hname huid
  obtain ⟨setup, reading, found, hcourse⟩ := course_run generated howner hheld
  obtain ⟨phases, report, -, -, hinOrder, hevents, hresult, hstops⟩ := hcourse σ hσ
  exact ⟨owner, found, phases, report, howner, hinOrder, hevents, hresult,
    fun k call answer e hcall hk he => hstops k hk call answer e (hevents ▸ hcall) he⟩

/-- A pass over a stored cluster, where the management API refuses every call. -/
theorem pass_in_order_dashboarded :
    ∃ (owner : Owner) (found : Option Endpoint) (phases : Phases) (report : Report),
      Owner.ofMetadata .elasticsearch dashboarded.metadata = .ok owner
        ∧ phases.InOrder dashboarded owner found
        ∧ ((run dashboarded "").course Script.refusing dashboardedWorld.store).events
          = phases.events dashboarded
        ∧ ((run dashboarded "").course Script.refusing dashboardedWorld.store).result = .ok report
        ∧ ∀ k call answer e, (phases.events dashboarded)[k]? = some (.store call answer) →
          ¬ phases.ReadsAt k → ¬ Tolerated call e →
          ((run dashboarded "").course Script.refusing dashboardedWorld.store).Stopped
            dashboardedWorld.store k call e (.store e)
            ((run dashboarded "").course (Script.refusing.failing k e) dashboardedWorld.store) :=
  pass_in_order "" rfl rfl rfl (by decide) Script.quiet_refusing

end Elasticsearch

end Pass

end LoggingOperator
