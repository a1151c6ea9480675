/-
  LoggingOperator.Proofs.Pass.Token — THE TOKEN THAT THE SECRET HOLDS.

  The value of a token is told only once, when it is issued, and then kept in a
  secret.  A pass that does not find the secret issues a token for it; where
  the token is issued already, it deletes it and issues it again.  So a pass
  makes a token useless that another pass is just about to store, and since the
  secret is created once, it is never corrected.

  What a pass is doing about the token is told by its last call (`Stage`), and
  what it may do next by the stage (`Stage.Allows`).  Whatever it is answered, a
  pass does no more than that (`obeys_run`).
-/
import LoggingOperator.Proofs.Pass.Calls
import LoggingOperator.Proofs.Program.Interleaving

namespace LoggingOperator

open Convergence (withLastApplied)
open Management (TokenId Endpoint)
open Program (Entry)

/-! ## §1. Tokens and what becomes of them -/

/-- What a call did about a token: it was issued with a value, or deleted. -/
def Event.token? (token : TokenId) : Event → Option (Option String)
  | .manage _ (.createToken t) (.ok issued) =>
    if t = token then some (some issued.value) else none
  | .manage _ (.deleteToken t) (.ok _) => if t = token then some none else none
  | _ => none

section Calls

variable (endpoint : Endpoint) (token : TokenId)

theorem Event.token?_of_issued (issued : Management.ServiceToken) :
    Event.token? token (.manage endpoint (.createToken token) (.ok issued))
      = some (some issued.value) :=
  if_pos rfl

theorem Event.token?_of_deleted :
    Event.token? token (.manage endpoint (.deleteToken token) (.ok ())) = some none :=
  if_pos rfl

end Calls

namespace Pass.Elasticsearch

open Manifest.Elasticsearch (Part)

/-- The value of the token that is valid, after what happened. -/
def live (token : TokenId) : List Entry → Option String
  | [] => none
  | entry :: earlier => (entry.event.token? token).getD (live token earlier)

/-- The values that the token was issued with. -/
def issued (token : TokenId) (history : List Entry) : List String :=
  history.filterMap fun entry => (entry.event.token? token).join

section History

variable {token : TokenId} {entry : Entry} {history : List Entry}

theorem live_of_none (h : entry.event.token? token = none) :
    live token (entry :: history) = live token history := by
  rw [live, h, Option.getD_none]

theorem live_of_given {value : String} (h : entry.event.token? token = some (some value)) :
    live token (entry :: history) = some value := by
  rw [live, h, Option.getD_some]

theorem mem_issued_cons {value : String} (h : value ∈ issued token history) :
    value ∈ issued token (entry :: history) := by
  rw [issued, List.filterMap_cons]
  split
  · exact h
  · exact List.mem_cons_of_mem _ h

theorem mem_issued_of_given {value : String} (h : entry.event.token? token = some (some value)) :
    value ∈ issued token (entry :: history) := by
  rw [issued, List.filterMap_cons, h]
  exact List.mem_cons_self

end History

/-- What a pass is doing about the token. -/
inductive Stage where
  | idle
  /-- It did not find the secret. -/
  | missing
  /-- It was told that the token is issued already. -/
  | refused
  /-- It deleted the token. -/
  | revoked
  /-- It was issued the token with this value. -/
  | given (value : String)

/-- Where the token is kept. -/
def tokenKey (es : LoggingOperator.Elasticsearch) (ns : String) : StoreKey :=
  StoreKey.of .secret (some ns) (Naming.tokenSecret es.id)

/-- What a pass is doing after a call. -/
def Stage.after (key : StoreKey) : Event → Stage
  | .store (.get kind name ns) (.error e) =>
    if StoreKey.of kind ns name = key ∧ e.isNotFound = true then .missing else .idle
  | .manage _ (.createToken _) (.ok issued) => .given issued.value
  | .manage _ (.createToken _) (.error e) => if e.isConflict then .refused else .idle
  | .manage _ (.deleteToken _) (.ok _) => .revoked
  | _ => .idle

/-- The call creates the secret with this value. -/
def StoresToken (es : LoggingOperator.Elasticsearch) (value : String) (call : StoreCall) : Prop :=
  ∃ desired object, SecretOf es Naming.tokenSecret "token" (Text.Base64.bytes value) desired
    ∧ withLastApplied desired = .ok object ∧ call = .create .secret object

/-- What a pass may do in a stage: tokens are issued where the secret is missing,
    deleted where they are refused, and kept where they are given. -/
def Stage.Allows (es : LoggingOperator.Elasticsearch) (ns : String) (token : TokenId)
    (stage : Stage) : Event → Prop
  | .store call _ => ∀ name, call.op.isWrite = true → call.name = .ok name →
    StoreKey.of call.kind call.ns? name = tokenKey es ns →
      ∃ value, stage = .given value ∧ StoresToken es value call
  | .manage _ (.createToken t) _ => t = token ∧ (stage = .missing ∨ stage = .revoked)
  | .manage _ (.deleteToken t) _ => t = token ∧ stage = .refused
  | _ => True

/-- Follows a pass through the stages. -/
def stages (es : LoggingOperator.Elasticsearch) (ns : String) (token : TokenId) :
    Monitor Stage where
  next := fun _ => Stage.after (tokenKey es ns)
  allows := Stage.Allows es ns token

variable {es : LoggingOperator.Elasticsearch} {ns generated : String} {token : TokenId}
  {stage : Stage} {event : Event}

/-! ## §2. A pass goes through the stages -/

theorem tokenSecret_ne (id : String) :
    Naming.passwordSecret id ≠ Naming.tokenSecret id
      ∧ Naming.certificateSecret id ≠ Naming.tokenSecret id := by
  constructor
  · exact fun h => absurd ((String.append_right_inj id).1 h) (by decide)
  · exact fun h => absurd ((String.append_right_inj id).1 h) (by decide)

variable (es ns) in
/-- What a declaration may change is not the secret of the token. -/
theorem ne_tokenKey {call : StoreCall} (h : call.kind.createdOnce = false) (name : String) :
    StoreKey.of call.kind call.ns? name ≠ tokenKey es ns := by
  intro hkey
  have hkind : call.kind = .secret := congrArg StoreKey.kind hkey
  rw [hkind] at h
  cases h

/-- What is done outside the token step is allowed in every stage. -/
theorem Ordinary.allowed (h : Ordinary es event) (stage : Stage) :
    stage.Allows es ns token event := by
  cases h with
  | read => exact fun _ hwrite => by cases hwrite
  | health => trivial
  | plain changeable => exact fun name _ _ hkey => absurd hkey (ne_tokenKey es ns changeable name)
  | @secret object answer named =>
    intro name _ hname hkey
    have hname : object.name = .ok name := hname
    have hsame : name = Naming.tokenSecret es.id := congrArg StoreKey.name hkey
    obtain ⟨hpassword, hcertificate⟩ := tokenSecret_ne es.id
    rw [hname, hsame] at named
    rcases named with named | named
    · exact absurd (Except.ok.inj named).symm hpassword
    · exact absurd (Except.ok.inj named).symm hcertificate

variable (es ns token) in
/-- In whatever stage it starts, the part of a pass does what its stages allow. -/
def Staged {α : Type} (p : Pass α) : Prop :=
  ∀ stage, p.Obeys (stages es ns token) (fun _ _ => True) stage

section Rules

variable {α β : Type} {p : Pass α}

theorem Staged.bind {f : α → Pass β} (hp : Staged es ns token p)
    (hf : ∀ a, Staged es ns token (f a)) : Staged es ns token (p.bind f) :=
  fun stage => (hp stage).bind (fun a s _ => hf a s) fun _ _ _ => trivial

theorem Staged.handle {f : PassError → Pass α} (hp : Staged es ns token p)
    (hf : ∀ e, Staged es ns token (f e)) : Staged es ns token (p.handle f) :=
  fun stage => (hp stage).handle (fun _ _ _ => trivial) fun e s _ => hf e s

theorem staged_done (a : α) : Staged es ns token (.done a) :=
  fun _ => trivial

theorem staged_fail (e : PassError) : Staged es ns token (.fail e : Pass α) :=
  fun _ => trivial

theorem staged_of_ordinary (h : Keeps (Ordinary es) p) : Staged es ns token p :=
  fun _ => (h.obeys_of_keeps (P := fun _ => True)
    (fun s _ _ hordinary => ⟨hordinary.allowed s, trivial⟩) trivial).mono fun _ _ _ => trivial

end Rules

/-- **A token is issued, at the cost of one that is issued already.** -/
theorem obeys_issueToken (endpoint : Endpoint) :
    (issueToken endpoint token).Obeys (stages es ns token)
      (fun r stage => ∀ issued, r = .ok issued → stage = .given issued.value) .missing := by
  intro answer
  refine ⟨⟨rfl, Or.inl rfl⟩, ?_⟩
  cases answer with
  | ok issued => exact fun _ h => by cases h; rfl
  | error e =>
    dsimp only
    split
    · next hconflict =>
      -- It is refused, deleted and issued again.
      have hrefused : (stages es ns token).next .missing
          (.manage endpoint (.createToken token) (.error e)) = .refused := if_pos hconflict
      rw [hrefused]
      refine Program.Obeys.mapError fun answer => ?_
      refine ⟨⟨rfl, rfl⟩, ?_⟩
      cases answer with
      | error e => exact nofun
      | ok _ =>
        intro answer
        refine ⟨⟨rfl, Or.inr rfl⟩, ?_⟩
        cases answer with
        | error e => exact nofun
        | ok issued => exact fun _ h => by cases h; rfl
    · exact nofun

/-- What was built is the secret with the value that was given. -/
def Built (es : LoggingOperator.Elasticsearch) (r : Except PassError Json) (stage : Stage) : Prop :=
  ∀ desired, r = .ok desired → ∃ value, stage = .given value
    ∧ SecretOf es Naming.tokenSecret "token" (Text.Base64.bytes value) desired

/-- The secret is built with the value that is issued. -/
theorem obeys_buildToken (endpoint : Endpoint) :
    ((issueToken endpoint token).bind fun issued =>
        ofBuild ((Manifest.Elasticsearch.tokenSecret es issued.value).map Secret.toJson)).Obeys
      (stages es ns token) (Built es) .missing := by
  refine (obeys_issueToken endpoint).bind (fun issued stage hstage => ?_) fun _ _ _ => nofun
  rw [hstage issued rfl]
  have hbuild : (ofBuild ((Manifest.Elasticsearch.tokenSecret es issued.value).map
      Secret.toJson)).Does (fun _ => False) fun r => ∀ desired, r = .ok desired →
        SecretOf es Naming.tokenSecret "token" (Text.Base64.bytes issued.value) desired :=
    does_buildSecret Naming.tokenSecret "token" (Text.Base64.bytes issued.value)
  refine (hbuild.obeys_of_keeps (P := (· = .given issued.value)) (fun _ _ _ h => h.elim)
    rfl).mono ?_
  rintro r _ ⟨hbuilt, rfl⟩ desired hdesired
  exact ⟨_, rfl, hbuilt desired hdesired⟩

/-- What is issued is kept, and nothing else. -/
theorem staged_ensureToken (endpoint : Endpoint) (integration : ServiceIntegration) :
    Staged es ns (tokenId integration) (ensureToken es ns endpoint integration) := by
  intro stage
  -- Only an answer that there is no secret leads on.
  have hbuild : ∀ answer, Convergence.stored? answer = .ok none →
      ((issueToken endpoint (tokenId integration)).bind fun issued =>
        ofBuild ((Manifest.Elasticsearch.tokenSecret es issued.value).map Secret.toJson)).Obeys
      (stages es ns (tokenId integration)) (Built es)
      ((stages es ns (tokenId integration)).next stage
        (.store (.get .secret (Naming.tokenSecret es.id) (some ns)) answer)) := by
    intro answer hstored
    have hmissing : (stages es ns (tokenId integration)).next stage
        (.store (.get .secret (Naming.tokenSecret es.id) (some ns)) answer) = .missing := by
      cases answer with
      | ok object => cases hstored
      | error e =>
        have hnone : e.isNotFound = true := by
          cases hnone : e.isNotFound <;> simp [Convergence.stored?, hnone] at hstored ⊢
        exact if_pos ⟨rfl, hnone⟩
    rw [hmissing]
    exact obeys_buildToken endpoint
  refine Convergence.obeys_ensureOnce (fun _ _ hwrite => by cases hwrite) hbuild ?_
  intro desired _ hbuilt object hobject result name _ _ _
  obtain ⟨value, rfl, hsecret⟩ := hbuilt desired rfl
  exact ⟨value, rfl, desired, object, hsecret, hobject, rfl⟩

variable {integration : ServiceIntegration} (hintegration : es.spec.integration? = some integration)
include hintegration

theorem staged_setUpToken (p : Progress) :
    Staged es ns (tokenId integration) (setUpToken es ns p) := by
  unfold setUpToken
  split
  · next endpoint found _ _ hfound =>
    cases hfound.symm.trans hintegration
    refine ((staged_ensureToken endpoint integration).bind fun _ => staged_done _).handle
      fun e => ?_
    split
    · exact staged_done _
    · exact staged_fail _
  · exact staged_done _

theorem staged_takeSteps (steps : List Step) (p : Progress) :
    Staged es ns (tokenId integration) (takeSteps es ns generated steps p) := by
  induction steps generalizing p with
  | nil => exact staged_done _
  | cons step rest ih =>
    refine Staged.bind ?_ fun p => ih p
    by_cases hstep : step = .tokenIssue
    · subst hstep
      exact (staged_setUpToken hintegration _).bind fun _ => staged_done _
    · exact staged_of_ordinary (does_takeStep es hstep _)

omit hintegration in
/-- After the status is written, a pass is idle. -/
theorem obeys_writeStatus (declared status : Json) :
    (writeStatus .elasticsearch declared status).Obeys (stages es ns token)
      (fun _ stage => stage = .idle) stage := by
  intro answer
  refine ⟨fun name _ _ hkey => absurd hkey (ne_tokenKey es ns rfl name), ?_⟩
  cases answer with
  | ok _ => rfl
  | error e =>
    dsimp only
    split
    · rfl
    · rfl

/-- **A pass does about the token what its stages allow**, and if it comes to its
    end, it is idle. -/
theorem obeys_run (hns : es.metadata.ns = some ns) (generated : String) :
    (run es generated).Obeys (stages es ns (tokenId integration))
      (fun r stage => ∀ report, r = .ok report → stage = .idle) stage := by
  have hnamespace : namespaceOf .elasticsearch es.metadata = .done ns := by
    rw [namespaceOf, hns]
  obtain ⟨steps, hplan⟩ : ∃ steps, es.spec.plan = steps ++ [.statusWritten] := ⟨_, rfl⟩
  simp only [run, hnamespace, hplan, takeSteps_append, takeSteps, takeStep, Program.bind_eq,
    Program.pure_eq, Program.done_bind, Program.bind_assoc]
  have hstopped : ∀ (e : PassError) (s : Stage) (report : Report),
      (.error e : Except PassError Report) = .ok report → s = .idle := fun _ _ _ h => by cases h
  -- The status is written last.
  refine (staged_takeSteps hintegration steps _ stage).bind (fun p stage _ => ?_)
    fun e s _ => hstopped e s
  exact (obeys_writeStatus _ _).bind (fun _ _ hidle _ _ => hidle) fun e s _ => hstopped e s

end Pass.Elasticsearch

end LoggingOperator
