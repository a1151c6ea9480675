/-
  LoggingOperator.Proofs.Pass.Elasticsearch — A PASS OVER A SEARCH CLUSTER.

  Each step of a pass settles the goals of its own objects, whatever happened
  to the passes before (`Done`).  Two steps depend on what is found on the
  way: the probe needs the password, and the token is only asked for where the
  probe found the cluster ready.  Where nothing fails, the password has just
  been generated, so that the probe reaches the cluster (`leads_probeSteps`),
  and a token that is taken already is issued again (`leads_issueToken`).

  Errors of the management API do not stop a pass.  A pass that was left
  without its token this way ends like any other, but was not fair.
-/
import LoggingOperator.Pass.Elasticsearch
import LoggingOperator.Proofs.Manifest.Elasticsearch
import LoggingOperator.Proofs.Pass.Status

namespace LoggingOperator

namespace Management

/-! ## §1. A cluster that serves -/

variable {c : Cluster}

/-- A token is refused only because it is issued already. -/
theorem Cluster.Serves.createToken (h : c.Serves) (endpoint : Endpoint) (token : TokenId) :
    (∃ issued, (c.answer endpoint (.createToken token)).1 = .ok issued)
      ∨ ∃ e, (c.answer endpoint (.createToken token)).1 = .error e ∧ e.isConflict = true := by
  obtain ⟨value, hvalue⟩ := h.issuing
  have htoken : (c.record endpoint (.createToken token)).token = .ok value := hvalue
  by_cases htaken : (c.record endpoint (.createToken token)).hasToken token = true
  · refine Or.inr ⟨.status 409 "version_conflict_engine_exception", ?_, rfl⟩
    rw [answer, act, issue, htoken]
    simp only [if_pos htaken]
  · refine Or.inl ⟨⟨token.name, value⟩, ?_⟩
    rw [answer, act, issue, htoken]
    simp only [if_neg htaken]

/-- A token that was deleted is issued. -/
theorem Cluster.Serves.createToken_of_deleted (h : c.Serves) (endpoint : Endpoint)
    (token : TokenId) :
    ∃ issued, ((c.answer endpoint (.deleteToken token)).2.answer endpoint
      (.createToken token)).1 = .ok issued := by
  obtain ⟨value, hvalue⟩ := h.issuing
  let deleted := (c.answer endpoint (.deleteToken token)).2
  have htoken : (deleted.record endpoint (.createToken token)).token = .ok value := hvalue
  have hfree : (deleted.record endpoint (.createToken token)).hasToken token = false := by
    show (c.tokens.filter fun t => !decide (t = token.text)).contains token.text = false
    simp
  refine ⟨⟨token.name, value⟩, ?_⟩
  show (deleted.answer endpoint (.createToken token)).1 = _
  rw [answer, act, issue, htoken]
  simp [hfree]

end Management

namespace Pass

open Program (World Environment)
open Management (Call Endpoint TokenId)

/-! ## §2. Calls to the management API -/

section Rules

variable {ε α : Type} {env : Environment} {plan : Plan} {w : World}

theorem leads_mapError {ε' : Type} {f : ε → ε'} {p : Program ε α} {Post : α → World → Prop}
    (h : Leads env plan p w Post) : Leads env plan (p.mapError f) w Post := by
  intro r w' hrun
  obtain ⟨r₀, hrun₀, rfl⟩ := Program.runs_mapError_iff.1 hrun
  obtain ⟨hadvances, hfair, hpost, herror⟩ := h _ _ hrun₀
  refine ⟨hadvances, hfair, fun a ha => ?_, fun e he => ?_⟩
  · cases r₀ with
    | ok a₀ => exact hpost a (congrArg Except.ok (Except.ok.inj ha))
    | error e₀ => cases ha
  · cases r₀ with
    | ok a₀ => cases he
    | error e₀ => exact herror e₀ rfl

/-- A call whose error is not expected of a fair cluster. -/
theorem leads_callManagement {endpoint : Endpoint} {call : Call}
    (h : Fair env w.cluster → ∃ a, (w.cluster.answer endpoint call).1 = .ok a) :
    Leads env plan (Program.callManagement endpoint call) w fun _ _ => True := by
  refine leads_manage fun answer after hanswer => ?_
  cases answer with
  | ok a => exact leads_done trivial
  | error e =>
    refine leads_fail fun hfair => ?_
    have hfair := (fair_answer_iff hanswer).1 hfair
    obtain ⟨a, ha⟩ := h hfair
    rw [hfair.honest hanswer] at ha
    cases ha

end Rules

namespace Elasticsearch

open Manifest.Elasticsearch
open Convergence (Outcome converge ensureOnce)

/-! ## §3. The token -/

/-- **A token is issued**, though it may have been issued before. -/
theorem leads_issueToken {env : Environment} {plan : Plan} {w : World} (endpoint : Endpoint)
    (token : TokenId) : Leads env plan (issueToken endpoint token) w fun _ _ => True := by
  refine leads_manage fun answer after hanswer => ?_
  cases answer with
  | ok issued => exact leads_done trivial
  | error e =>
    dsimp only
    split
    · -- The token was issued before: it is deleted, and then it is free.
      refine leads_mapError (leads_manage fun answer' after' hanswer' => ?_)
      cases answer' with
      | error e' =>
        refine leads_fail fun hfair => ?_
        cases ((fair_answer_iff hanswer').1 hfair).honest hanswer'
      | ok _ =>
        refine leads_callManagement fun hfair => ?_
        have hfair := (fair_answer_iff hanswer').1 hfair
        obtain ⟨issued, hissued⟩ := hfair.serves.createToken_of_deleted endpoint token
        rw [hfair.honest hanswer'] at hissued
        exact ⟨issued, hissued⟩
    · next hconflict =>
      refine leads_fail fun hfair => ?_
      have hfair := (fair_answer_iff hanswer).1 hfair
      rcases hfair.serves.createToken endpoint token with ⟨issued, hissued⟩ | ⟨e', he', hconflict'⟩
      · rw [hfair.honest hanswer] at hissued
        cases hissued
      · rw [hfair.honest hanswer] at he'
        cases he'
        exact hconflict hconflict'

/-- Errors of the management API are forgiven, and there are none where all is
    fair. -/
theorem leads_forgiveManagement {env : Environment} {plan : Plan} {w : World} {p : Pass Outcome}
    {Q : World → Prop} (h : Leads env plan p w fun _ w' => Fair env w.cluster → Q w') :
    Leads env plan (forgiveManagement p) w fun _ w' => Fair env w'.cluster → Q w' := by
  intro r w' hrun
  -- The outcome is put into a list before errors are handled, hence the two inversions.
  rcases Program.runs_handle_iff.1 hrun with ⟨outcomes, hrun₁, rfl⟩ | ⟨e, between, hrun₁, hrest⟩
  · rcases Program.runs_bind_iff.1 hrun₁ with ⟨e, -, he⟩ | ⟨outcome, between, hrun₂, hdone⟩
    · cases he
    · obtain ⟨-, rfl⟩ := Program.runs_done_iff.1 hdone
      obtain ⟨hadvances, hfair, hpost, -⟩ := h _ _ hrun₂
      exact ⟨hadvances, hfair, fun _ _ hfair' => hpost outcome rfl (hfair.1 hfair'), nofun⟩
  · rcases Program.runs_bind_iff.1 hrun₁ with ⟨e', hrun₂, he⟩ | ⟨outcome, _, _, hdone⟩
    · cases he
      obtain ⟨hadvances, hfair, -, herror⟩ := h _ _ hrun₂
      have hsame : w' = between := by
        cases e with
        | management e => exact (Program.runs_done_iff.1 hrest).2
        | _ => exact (Program.runs_fail_iff.1 hrest).2
      subst hsame
      exact ⟨hadvances, hfair, fun _ _ hfair' => absurd (hfair.1 hfair') (herror e rfl),
        fun _ _ => herror e rfl⟩
    · cases (Program.runs_done_iff.1 hdone).1

/-- A cluster that is found is ready where all is fair. -/
theorem leads_probe {env : Environment} {plan : Plan} {w : World} (found : Option Endpoint) :
    Leads env plan (probe found) w fun answer w' =>
      Fair env w'.cluster → found.isSome = true → answer.1 = .ready := by
  cases found with
  | none => exact leads_done nofun
  | some endpoint =>
    refine leads_manage fun answer after hanswer => ?_
    have hready : Fair env after → ∃ report, answer = .ok report
        ∧ Health.classify report.colour = .ready := by
      intro hfair
      have hfair := (fair_answer_iff hanswer).1 hfair
      obtain ⟨report, hreport, hready⟩ := hfair.serves.ready
      have htold : (w.cluster.answer endpoint .health).1 = .ok report := hreport
      rw [hfair.honest hanswer] at htold
      exact ⟨report, htold, hready⟩
    cases answer with
    | ok report =>
      refine leads_done fun hfair _ => ?_
      obtain ⟨_, hreport, hready⟩ := hready hfair
      cases hreport
      exact hready
    | error e =>
      refine leads_done fun hfair _ => ?_
      obtain ⟨_, hreport, -⟩ := hready hfair
      cases hreport

/-! ## §4. Goals that are settled -/

/-- The goal of the part is settled, if the part is asked for and all is fair. -/
def Done (env : Environment) (es : LoggingOperator.Elasticsearch) (owner : Owner) (init : Store)
    (part : Part) (w : World) : Prop :=
  Fair env w.cluster → ∀ d, Builds es owner init part d →
    Settled (plan es owner init) (part.goal owner) w.store

section Steps

variable {env : Environment} {es : LoggingOperator.Elasticsearch} {owner : Owner} {init : Store}
  {w w' : World} {generated : String} {p : Progress}

theorem Done.after {part : Part} (howner : Owner.ofMetadata .elasticsearch es.metadata = .ok owner)
    (h : Done env es owner init part w) (hadvances : Advances (plan es owner init) w.store w'.store)
    (hfair : Fair env w'.cluster ↔ Fair env w.cluster) : Done env es owner init part w' :=
  fun hfair' d hd => hadvances.settled (sound_plan howner) ⟨part, rfl, hd⟩ (h (hfair.1 hfair') d hd)

theorem id_eq (howner : Owner.ofMetadata .elasticsearch es.metadata = .ok owner) :
    es.id = owner.name := by
  rw [Declaration.id, Metadata.anyName, (Owner.of_ofMetadata howner).2]
  rfl

variable (htame : Tame env) (howner : Owner.ofMetadata .elasticsearch es.metadata = .ok owner)
include htame howner

/-- A secret is created once. -/
theorem leads_ensureSecret {part : Part} {name : String} {build : Pass Json}
    (hgoal : part.goal owner = ⟨.secret, some owner.ns, name, true⟩)
    (hbuild : ∀ between, between.cluster = w.cluster →
      Leads env Plan.empty build between fun d _ => Builds es owner init part d) :
    Leads env (plan es owner init) (ensureSecret name owner.ns build) w fun _ w' =>
      Fair env w.cluster → Settled (plan es owner init) (part.goal owner) w'.store := by
  rw [hgoal]
  refine leads_ensureOnce (g := ⟨.secret, some owner.ns, name, true⟩) htame (sound_plan howner) rfl
    fun between hcluster => (hbuild between hcluster).weaken fun d _ _ _ hd => ?_
  exact ⟨part, hgoal, hd⟩

/-- The secrets that are declared are there. -/
theorem leads_setUpSecurity {tls password : Bool} (htls : tls = es.spec.tls)
    (hpassword : password = true ↔
      ∃ security, es.spec.security = some security ∧ security.needsPassword = true) :
    Leads env (plan es owner init) (setUpSecurity es owner.ns generated tls password) w fun _ w' =>
      Done env es owner init .password w' ∧ Done env es owner init .certificate w' := by
  have hid := id_eq howner
  have hbuildPassword : password = true → ∀ between : World, Leads env Plan.empty
      (ofBuild ((passwordSecret es generated).map Secret.toJson)) between
      fun d _ => Builds es owner init .password d := by
    intro hflag between
    rw [passwordSecret_eq_ok howner]
    exact leads_done ⟨hpassword.1 hflag, generated, _, passwordSecret_eq_ok howner generated, rfl⟩
  have hbuildCertificate : tls = true → ∀ between : World, Leads env Plan.empty
      (ofBuild ((certificateSecret es).map Secret.toJson)) between
      fun d _ => Builds es owner init .certificate d := by
    intro hflag between
    rw [certificateSecret_eq_ok howner]
    exact leads_done ⟨htls.symm.trans hflag, _, certificateSecret_eq_ok howner, rfl⟩
  -- The certificate comes second, and what was settled for the password stays so.
  have hcertificate : ∀ (passwords : List Outcome) (between : World),
      Done env es owner init .password between →
      Leads env (plan es owner init)
        (if tls = true then
          (ensureSecret (Naming.certificateSecret owner.name) owner.ns
            (ofBuild ((certificateSecret es).map Secret.toJson))).bind fun outcome =>
              .done (passwords ++ [outcome])
        else .done (passwords ++ [])) between fun _ w' =>
          Done env es owner init .password w' ∧ Done env es owner init .certificate w' := by
    intro passwords between hdone
    split
    · next hflag =>
      refine leads_bind (leads_ensureSecret htame howner rfl
        fun between _ => hbuildCertificate hflag between) ?_
      intro _ between' hadvances hfair hset
      exact leads_done ⟨hdone.after howner hadvances hfair, fun hfair' _ _ => hset (hfair.1 hfair')⟩
    · next hflag =>
      refine leads_done ⟨hdone, fun _ d hd => ?_⟩
      rw [htls, hd.1] at hflag
      exact absurd rfl hflag
  simp only [setUpSecurity, Program.bind_eq, Program.pure_eq, Program.done_bind, hid]
  split
  · next hflag =>
    refine leads_bind (leads_ensureSecret htame howner rfl
      fun between _ => hbuildPassword hflag between) ?_
    intro outcome between _ hfair hset
    exact hcertificate [outcome] between fun hfair' _ _ => hset (hfair.1 hfair')
  · next hflag =>
    exact hcertificate [] w fun _ d hd => absurd (hpassword.2 hd.1) hflag

/-- The objects of a role are settled. -/
def RoleDone (env : Environment) (es : LoggingOperator.Elasticsearch) (owner : Owner)
    (init : Store) (role : Role) (w : World) : Prop :=
  Done env es owner init (.workload role) w ∧ Done env es owner init (.routable role) w
    ∧ Done env es owner init (.headless role) w

omit htame in
theorem RoleDone.after {role : Role} (h : RoleDone env es owner init role w)
    (hadvances : Advances (plan es owner init) w.store w'.store)
    (hfair : Fair env w'.cluster ↔ Fair env w.cluster) : RoleDone env es owner init role w' :=
  ⟨h.1.after howner hadvances hfair, h.2.1.after howner hadvances hfair,
    h.2.2.after howner hadvances hfair⟩

/-- The objects of a declared role are brought to what is declared. -/
theorem leads_setUpRole {role : Role} (hrole : (es.spec.nodes? role).isSome = true) :
    Leads env (plan es owner init) (setUpRole es role) w fun _ w' =>
      RoleDone env es owner init role w' := by
  have hplan : (plan es owner init).Sound
      (StoreKey.of .elasticsearch (some owner.ns) owner.name) := sound_plan howner
  obtain ⟨workload, hworkload, -⟩ := statefulSet_eq_ok howner hrole
  obtain ⟨routable, headless, hservices, -⟩ := services_eq_ok howner role
  simp only [setUpRole, Program.bind_eq, Program.pure_eq]
  refine leads_ofBuild hworkload ?_
  refine leads_bind (leads_converge (g := Part.goal owner (.workload role)) htame hplan
    ⟨.workload role, rfl, hrole, workload, hworkload, rfl⟩ rfl) ?_
  intro _ w₁ _ _ hset₁
  refine leads_ofBuild hservices ?_
  refine leads_bind (leads_converge (g := Part.goal owner (.routable role)) htame hplan
    ⟨.routable role, rfl, hrole, _, hservices, rfl⟩ rfl) ?_
  intro _ w₂ step₂ _ hset₂
  refine leads_bind (leads_converge (g := Part.goal owner (.headless role)) htame hplan
    ⟨.headless role, rfl, hrole, _, hservices, rfl⟩ rfl) ?_
  intro _ w₃ step₃ _ hset₃
  -- What was settled first stays so while the others are written.
  refine leads_done ⟨fun _ d hd => ?_, fun _ d hd => ?_, fun _ _ _ => hset₃⟩
  · exact (step₂.trans step₃).settled hplan ⟨.workload role, rfl, hd⟩ hset₁
  · exact step₃.settled hplan ⟨.routable role, rfl, hd⟩ hset₂

/-! ## §5. Health -/

variable (hreached : Reached (plan es owner init)
  (StoreKey.of .elasticsearch (some owner.ns) owner.name) init w.store)
include hreached

omit htame in
/-- The cluster is found only if its password can be read, and then it is found
    unless that is made to fail. -/
theorem leads_endpoint (hpassword : Done env es owner init .password w) :
    Leads env (plan es owner init) (endpoint es owner.ns) w fun found w' =>
      (found.isSome = true → Readable es owner init)
        ∧ (Fair env w'.cluster → Readable es owner init → found.isSome = true) := by
  unfold endpoint
  cases hsecurity : es.spec.security.filter Security.hasPassword with
  | none =>
    refine leads_done ⟨fun _ security h => ?_, fun _ _ => rfl⟩
    rw [hsecurity] at h
    cases h
  | some security =>
    refine leads_get ?_ ?_
    · intro e between he _ _
      exact leads_done ⟨nofun, fun hfair => absurd he (hfair.quiet e)⟩
    · intro between hobjects hcluster
      have hsource : StoreKey.of .secret (some owner.ns) (security.passwordSource es.id)
          = source owner security := by
        rw [id_eq howner]
        rfl
      -- What can be read now could be read from the beginning, and the other way round.
      have hunlocked : ∀ stored, w.store.object? (source owner security) = some stored →
          (Secret.text? "password" stored).isSome = true → Unlocked es owner w.store := by
        intro stored hstored htext security' hsecurity'
        cases hsecurity.symm.trans hsecurity'
        exact ⟨stored, hstored, htext⟩
      rw [hsource, Store.get]
      cases hstored : w.store.object? (source owner security) with
      | none =>
        refine leads_done ⟨nofun, fun hfair hreadable => ?_⟩
        obtain ⟨stored, hstored', -⟩ :=
          hreadable.unlocked howner hreached (hpassword (hcluster ▸ hfair)) security hsecurity
        rw [hstored] at hstored'
        cases hstored'
      | some stored =>
        refine leads_done ⟨fun hfound => ?_, fun hfair hreadable => ?_⟩
        · rw [Option.isSome_map] at hfound
          exact (hunlocked stored hstored hfound).readable howner hreached
        · obtain ⟨stored', hstored', htext⟩ :=
            hreadable.unlocked howner hreached (hpassword (hcluster ▸ hfair)) security hsecurity
          cases hstored.symm.trans hstored'
          rw [Option.isSome_map]
          exact htext

end Steps

/-! ## §6. The steps of a pass -/

section Pass

variable {env : Environment} {es : LoggingOperator.Elasticsearch} {owner : Owner} {init : Store}
  {w : World} {generated : String}

/-- What a pass knows after the probe. -/
def Probed (env : Environment) (es : LoggingOperator.Elasticsearch) (owner : Owner) (init : Store)
    (p : Progress) (w : World) : Prop :=
  (p.endpoint.isSome = true → Readable es owner init)
    ∧ (Fair env w.cluster → Readable es owner init →
      p.endpoint.isSome = true ∧ p.report.health = .ready)

theorem takeSteps_append (es : LoggingOperator.Elasticsearch) (ns : String) (xs ys : List Step)
    (p : Progress) :
    takeSteps es ns generated (xs ++ ys) p
      = (takeSteps es ns generated xs p).bind (takeSteps es ns generated ys) := by
  induction xs generalizing p with
  | nil => rfl
  | cons step xs ih =>
    simp only [List.cons_append, takeSteps, Program.bind_eq, Program.bind_assoc]
    congr 1
    funext p
    exact ih p

variable (htame : Tame env) (howner : Owner.ofMetadata .elasticsearch es.metadata = .ok owner)
include htame howner

/-- The token is there, if there is to be one. -/
theorem leads_setUpToken {p : Progress} (hprobed : Probed env es owner init p w) :
    Leads env (plan es owner init) (setUpToken es owner.ns p) w fun _ w' =>
      Done env es owner init .token w' := by
  unfold setUpToken
  split
  · next endpoint integration _ hendpoint hintegration =>
    have hreadable := hprobed.1 (by rw [hendpoint]; rfl)
    refine (leads_forgiveManagement (Q := fun w' => Settled (plan es owner init)
      (Part.token.goal owner) w'.store) ?_).weaken fun _ w' _ _ hset hfair _ _ => hset hfair
    unfold ensureToken
    rw [id_eq howner]
    refine leads_ensureSecret htame howner rfl fun between _ => ?_
    simp only [Program.bind_eq]
    refine leads_bind (leads_issueToken endpoint (tokenId integration)) ?_
    intro issued _ _ _ _
    rw [tokenSecret_eq_ok howner]
    refine leads_done ⟨⟨?_, hreadable⟩, issued.value, _, tokenSecret_eq_ok howner issued.value, rfl⟩
    rw [hintegration]
    rfl
  · next hskipped =>
    -- Where all is fair, this happens only if no token is asked for.
    refine leads_done fun hfair d hd => ?_
    obtain ⟨hendpoint, hready⟩ := hprobed.2 hfair hd.1.2
    obtain ⟨endpoint, hendpoint⟩ := Option.isSome_iff_exists.1 hendpoint
    obtain ⟨integration, hintegration⟩ := Option.isSome_iff_exists.1 hd.1.1
    exact absurd hintegration (hskipped endpoint integration hready hendpoint)

/-- The step that creates the secrets. -/
theorem leads_securitySteps (p : Progress) :
    Leads env (plan es owner init) (takeSteps es owner.ns generated es.spec.securitySteps p) w
      fun _ w' => Done env es owner init .password w' ∧ Done env es owner init .certificate w' := by
  -- Without a step for them no secrets are asked for.
  have hidle : es.spec.tls = false →
      (¬ ∃ security, es.spec.security = some security ∧ security.needsPassword = true) →
      Leads env (plan es owner init) (takeSteps es owner.ns generated [] p) w fun _ w' =>
        Done env es owner init .password w' ∧ Done env es owner init .certificate w' := by
    intro htls hpassword
    refine leads_done ⟨fun _ d hd => absurd hd.1 hpassword, fun _ d hd => ?_⟩
    cases htls.symm.trans hd.1
  unfold ElasticsearchSpec.securitySteps
  cases hsecurity : es.spec.security with
  | none =>
    refine hidle ?_ ?_
    · rw [ElasticsearchSpec.tls, hsecurity]
    · rintro ⟨security, h, -⟩
      rw [hsecurity] at h
      cases h
  | some security =>
    have htls : security.tls = es.spec.tls := by
      rw [ElasticsearchSpec.tls, hsecurity]
    have hpassword : security.needsPassword = true ↔
        ∃ security, es.spec.security = some security ∧ security.needsPassword = true := by
      simp [hsecurity]
    dsimp only
    split
    · simp only [takeSteps, takeStep, Program.bind_eq, Program.pure_eq, Program.bind_assoc,
        Program.done_bind]
      refine leads_bind (leads_setUpSecurity htame howner htls hpassword) ?_
      intro _ _ _ _ hdone
      exact leads_done hdone
    · next hflags =>
      rw [Bool.or_eq_true, not_or, Bool.not_eq_true] at hflags
      exact hidle (htls.symm.trans hflags.1) fun h => hflags.2 (hpassword.2 h)

/-- The steps that set up the roles. -/
theorem leads_roleSteps {roles : List Role} (hroles : ∀ role ∈ roles,
    (es.spec.nodes? role).isSome = true) (p : Progress) :
    Leads env (plan es owner init) (takeSteps es owner.ns generated (roles.map .roleReady) p) w
      fun _ w' => ∀ role ∈ roles, RoleDone env es owner init role w' := by
  induction roles generalizing p w with
  | nil => exact leads_done (by simp)
  | cons role roles ih =>
    simp only [List.map_cons, takeSteps, takeStep, Program.bind_eq, Program.pure_eq,
      Program.bind_assoc, Program.done_bind]
    refine leads_bind (leads_setUpRole htame howner (hroles role List.mem_cons_self)) ?_
    intro _ between _ _ hrole
    refine (ih (fun r hr => hroles r (List.mem_cons_of_mem _ hr)) _).weaken ?_
    -- What was done for the first role is still so after the others.
    intro _ _ hadvances hfair hrest r hr
    rcases List.mem_cons.1 hr with rfl | hr
    · exact hrole.after howner hadvances hfair
    · exact hrest r hr

/-- The probe and, if a token is asked for, the token. -/
theorem leads_probeSteps (hreached : Reached (plan es owner init)
      (StoreKey.of .elasticsearch (some owner.ns) owner.name) init w.store)
    (hpassword : Done env es owner init .password w) (p : Progress) :
    Leads env (plan es owner init) (takeSteps es owner.ns generated
        (.healthProbe :: (if es.spec.integration?.isSome then [.tokenIssue] else [])) p) w
      fun _ w' => Done env es owner init .token w' := by
  simp only [takeSteps, takeStep, Program.bind_eq, Program.pure_eq, Program.bind_assoc,
    Program.done_bind]
  refine leads_bind (leads_endpoint howner hreached hpassword) ?_
  intro found w₁ _ _ hfound
  refine leads_bind (leads_probe found) ?_
  intro answer w₂ _ fair₂ hready
  have hprobed : ∀ report : Report, report.health = answer.1 →
      Probed env es owner init ⟨report, found⟩ w₂ := by
    intro report hreport
    refine ⟨hfound.1, fun hfair hreadable => ?_⟩
    have hfound := hfound.2 (fair₂.1 hfair) hreadable
    exact ⟨hfound, hreport.trans (hready hfair hfound)⟩
  by_cases htoken : es.spec.integration?.isSome = true
  · simp only [if_pos htoken, takeSteps, takeStep, Program.bind_eq, Program.pure_eq,
      Program.bind_assoc, Program.done_bind]
    refine leads_bind (leads_setUpToken htame howner (hprobed _ rfl)) ?_
    intro _ _ _ _ hdone
    exact leads_done hdone
  · simp only [if_neg htoken, takeSteps]
    exact leads_done fun _ d hd => absurd hd.1.1 htoken

/-- A status of a search cluster. -/
def IsStatus (v : Json) : Prop :=
  ∃ s : ElasticsearchStatus, v = s.toJson

/-- **A pass over a search cluster** brings its objects to what is declared and
    ends with a status write. -/
theorem closes_run {current : Json}
    (hreached : Reached (plan es owner init)
      (StoreKey.of .elasticsearch (some owner.ns) owner.name) init w.store)
    (hread : LoggingOperator.Elasticsearch.ofJson? current = some es)
    (hfound : w.store.object? (StoreKey.of .elasticsearch (some owner.ns) owner.name)
      = some current) :
    Closes env (plan es owner init) (StoreKey.of .elasticsearch (some owner.ns) owner.name)
      IsStatus (run es generated) w Report.statusConflict := by
  have hplan : (plan es owner init).Sound
      (StoreKey.of .elasticsearch (some owner.ns) owner.name) := sound_plan howner
  obtain ⟨hns, hname⟩ := Owner.of_ofMetadata howner
  have hnamespace : namespaceOf .elasticsearch es.metadata = .done owner.ns := by
    rw [namespaceOf, hns]
  simp only [run, hnamespace, Program.bind_eq, Program.pure_eq, Program.done_bind,
    ElasticsearchSpec.plan, takeSteps_append, Program.bind_assoc]
  -- The secrets, the roles, the probe with the token, and last of all the status.
  refine closes_bind hplan (leads_securitySteps htame howner {}) ?_
  intro p₁ w₁ step₁ _ hsecrets
  refine closes_bind hplan (leads_roleSteps htame howner
    (fun _ hrole => ElasticsearchSpec.mem_roles.1 hrole) p₁) ?_
  intro p₂ w₂ step₂ fair₂ hroles
  refine closes_bind hplan (leads_probeSteps htame howner
    (step₂.reached hplan (step₁.reached hplan hreached))
    (hsecrets.1.after howner step₂ fair₂) p₂) ?_
  intro p₃ w₃ step₃ fair₃ htoken
  simp only [takeSteps, takeStep, Program.bind_eq, Program.pure_eq, Program.bind_assoc,
    Program.done_bind]
  -- What an earlier step settled is still so at the end.
  have after₁ := step₂.trans step₃
  have hsame := fair₃.trans fair₂
  refine closes_map (closes_writeStatus (restatable_of_ofJson? hread hns hname) ?_ ?_ ⟨_, rfl⟩)
    fun _ => rfl
  · rw [after₁.own_eq hplan, step₁.own_eq hplan, hfound]
  · rintro hfair _ d ⟨part, rfl, hd⟩
    cases part with
    | password => exact hsecrets.1.after howner after₁ hsame hfair d hd
    | certificate => exact hsecrets.2.after howner after₁ hsame hfair d hd
    | token => exact htoken hfair d hd
    | workload role =>
      have hrole := hroles role (ElasticsearchSpec.mem_roles.2 hd.1)
      exact (hrole.after howner step₃ fair₃).1 hfair d hd
    | routable role =>
      have hrole := hroles role (ElasticsearchSpec.mem_roles.2 hd.1)
      exact (hrole.after howner step₃ fair₃).2.1 hfair d hd
    | headless role =>
      have hrole := hroles role (ElasticsearchSpec.mem_roles.2 hd.1)
      exact (hrole.after howner step₃ fair₃).2.2 hfair d hd

end Pass

end Elasticsearch

end Pass

end LoggingOperator
