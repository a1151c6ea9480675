/-
  LoggingOperator.Proofs.Pass.Gate — TOKENS WAIT FOR THE CLUSTER.

  To issue a token again makes the one before useless, so a pass over a search
  cluster calls for tokens behind a gate (`Gated`): it has asked for the health
  of the cluster, once, and was told that the cluster serves, and after that it
  has looked for the secret of the token and found none.  Behind the gate it
  issues the token; if that is refused because the token is issued already, it
  deletes the token, and only if that succeeds it issues the token again.

  The gate holds whatever the calls of a pass are answered (`Gated.of_traces`),
  and so in particular for every store, whichever calls to it fail, and every
  behaviour of the management API (`gated_course`).
-/
import LoggingOperator.Proofs.Pass.Phases

namespace LoggingOperator

open Management (Call Endpoint ManagementError ServiceToken TokenId)
open Program

/-! ## §1. Calls for tokens -/

namespace Event

/-- The token that a call issues or deletes. -/
def tokenId? : Event → Option TokenId
  | .manage _ (.createToken token) _ => some token
  | .manage _ (.deleteToken token) _ => some token
  | _ => none

/-- A call that issues or deletes a token. -/
def OnToken (event : Event) : Prop :=
  event.tokenId? ≠ none

/-- The call asks for the health of the cluster. -/
def OnHealth : Event → Prop
  | .manage _ .health _ => True
  | _ => False

def createsToken : Event → Bool
  | .manage _ (.createToken _) _ => true
  | _ => false

def deletesToken : Event → Bool
  | .manage _ (.deleteToken _) _ => true
  | _ => false

variable {event : Event}

theorem createsToken_of_not_onToken (h : ¬ event.OnToken) : event.createsToken = false := by
  unfold createsToken
  split
  · exact (h nofun).elim
  · rfl

theorem deletesToken_of_not_onToken (h : ¬ event.OnToken) : event.deletesToken = false := by
  unfold deletesToken
  split
  · exact (h nofun).elim
  · rfl

end Event

section Split

variable {α : Type} {P : α → Prop} {first rest last before after : List α} {a : α}

/-- What is not in the first part of a list is found in the rest of it. -/
theorem split_rest (hfirst : ∀ x ∈ first, ¬ P x) (h : first ++ rest = before ++ a :: after)
    (ha : P a) : ∃ m, before = first ++ m ∧ rest = m ++ a :: after := by
  induction first generalizing before with
  | nil => exact ⟨before, rfl, h⟩
  | cons x first ih =>
    obtain ⟨hx, hfirst⟩ := List.forall_mem_cons.1 hfirst
    cases before with
    | nil =>
      obtain ⟨rfl, -⟩ := List.cons.inj h
      exact absurd ha hx
    | cons y before =>
      obtain ⟨rfl, htail⟩ := List.cons.inj h
      obtain ⟨m, rfl, hrest⟩ := ih hfirst htail
      exact ⟨m, rfl, hrest⟩

/-- What is not in the last part of a list is found before it. -/
theorem split_first (hlast : ∀ x ∈ last, ¬ P x) (h : first ++ last = before ++ a :: after)
    (ha : P a) : ∃ m, first = before ++ a :: m ∧ after = m ++ last := by
  induction first generalizing before with
  | nil =>
    rw [List.nil_append] at h
    exact absurd ha (hlast a (by simp [h]))
  | cons x first ih =>
    cases before with
    | nil =>
      obtain ⟨rfl, rfl⟩ := List.cons.inj h
      exact ⟨first, rfl, rfl⟩
    | cons y before =>
      obtain ⟨rfl, htail⟩ := List.cons.inj h
      obtain ⟨m, rfl, hafter⟩ := ih htail
      exact ⟨m, rfl, hafter⟩

/-- What is in a list is its first element or in the rest of it. -/
theorem split_cons {x : α} (h : x :: rest = before ++ a :: after) :
    before = [] ∧ a = x ∨ ∃ m, before = x :: m ∧ rest = m ++ a :: after := by
  cases before with
  | nil => exact Or.inl ⟨rfl, (List.cons.inj h).1.symm⟩
  | cons y before =>
    obtain ⟨rfl, htail⟩ := List.cons.inj h
    exact Or.inr ⟨before, rfl, htail⟩

theorem not_split_nil (h : [] = before ++ a :: after) : False := by
  simp at h

end Split

namespace Pass.Elasticsearch

variable {es : LoggingOperator.Elasticsearch} {generated : String} {events : List Event}

theorem Preparing.not_onToken {event : Event} (h : Preparing event) : ¬ event.OnToken := by
  cases event with
  | store call answer => exact fun hevent => hevent rfl
  | _ => exact h.elim

theorem Preparing.not_onHealth {event : Event} (h : Preparing event) : ¬ event.OnHealth := by
  cases event with
  | store call answer => exact id
  | _ => exact h.elim

/-! ## §2. The gate -/

/-- A cluster of this colour serves: it is green or yellow, whatever the case of
    its letters and the blanks around it. -/
def Serves (colour : String) : Prop :=
  (Text.trim colour.toList).map Text.lowerAscii = "green".toList
    ∨ (Text.trim colour.toList).map Text.lowerAscii = "yellow".toList

/-- What has been called when a pass first calls for a token: the health of the
    cluster was asked for once, and it served; after that there was no secret of
    the token. -/
def Opened (es : LoggingOperator.Elasticsearch) (before : List Event) : Prop :=
  ∃ early endpoint report between e late,
    before = early ++ .manage endpoint .health (.ok report) :: between
      ++ .store (.get .secret (Naming.tokenSecret es.id) es.metadata.ns) (.error e) :: late
    ∧ Serves report.colour ∧ e.isNotFound = true
    ∧ ∀ event ∈ early ++ between ++ late, ¬ event.OnHealth

/-- **Calls for tokens wait at the gate.** -/
structure Gated (es : LoggingOperator.Elasticsearch) (events : List Event) : Prop where
  /-- Every call for a token comes after the gate was opened. -/
  opened : ∀ {before event after}, events = before ++ event :: after → event.OnToken →
    Opened es before
  /-- What is issued or deleted is the declared token. -/
  declared : ∀ {event token}, event ∈ events → event.tokenId? = some token →
    ∃ integration, es.spec.integration? = some integration
      ∧ token = ⟨"elastic", integration.service, integration.tokenName⟩
  creates : events.countP Event.createsToken ≤ 2
  deletes : events.countP Event.deletesToken ≤ 1
  /-- A token is deleted directly after the first create was refused because the
      token is issued already. -/
  refused : ∀ {before endpoint token answer after},
    events = before ++ .manage endpoint (.deleteToken token) answer :: after →
    ∃ earlier body, before
        = earlier ++ [.manage endpoint (.createToken token) (.error (.status 409 body))]
      ∧ ∀ event ∈ earlier, ¬ event.OnToken
  /-- A token is issued for the first time, or after it was deleted. -/
  again : ∀ {before endpoint token answer after},
    events = before ++ .manage endpoint (.createToken token) answer :: after →
    (∀ event ∈ before, ¬ event.OnToken)
      ∨ ∃ earlier, before = earlier ++ [.manage endpoint (.deleteToken token) (.ok ())]

/-- A pass that calls for no token need not wait. -/
theorem Gated.of_none (h : ∀ event ∈ events, ¬ event.OnToken) : Gated es events where
  opened hsplit hevent := absurd hevent (h _ (by simp [hsplit]))
  declared hmem htoken := (h _ hmem (by simp [Event.OnToken, htoken])).elim
  creates := by
    rw [List.countP_eq_zero.2 fun event hevent => by
      simp [Event.createsToken_of_not_onToken (h event hevent)]]
    exact Nat.zero_le 2
  deletes := by
    rw [List.countP_eq_zero.2 fun event hevent => by
      simp [Event.deletesToken_of_not_onToken (h event hevent)]]
    exact Nat.zero_le 1
  refused {_ endpoint token answer _} hsplit :=
    (h (.manage endpoint (.deleteToken token) answer) (by rw [hsplit]; simp) nofun).elim
  again {_ endpoint token answer _} hsplit :=
    (h (.manage endpoint (.createToken token) answer) (by rw [hsplit]; simp) nofun).elim

/-- A conflict is an answer with the status 409. -/
theorem exists_of_isConflict {e : ManagementError} (h : e.isConflict = true) :
    ∃ body, e = .status 409 body := by
  unfold ManagementError.isConflict at h
  split at h
  · exact ⟨_, rfl⟩
  · cases h

section Issues

variable {endpoint : Endpoint} {token : TokenId} {issues m m' : List Event}
  {r : Except PassError ServiceToken} {event : Event}

/-- **Where a call stands among those that issue a token**: it issues it first,
    or deletes it because that was refused, or issues it after that. -/
theorem Issues.split (h : Issues endpoint token issues r) (hsplit : issues = m ++ event :: m') :
    (m = [] ∧ ∃ answer, event = .manage endpoint (.createToken token) answer)
      ∨ (∃ body, m = [.manage endpoint (.createToken token) (.error (.status 409 body))]
        ∧ ∃ answer, event = .manage endpoint (.deleteToken token) answer)
      ∨ ∃ e, m = [.manage endpoint (.createToken token) (.error e),
          .manage endpoint (.deleteToken token) (.ok ())]
        ∧ ∃ answer, event = .manage endpoint (.createToken token) answer := by
  -- Each way to issue a token is a list of at most three calls, which is taken apart.
  cases h with
  | issued issued =>
    rcases split_cons hsplit with ⟨rfl, rfl⟩ | ⟨_, rfl, hnil⟩
    · exact Or.inl ⟨rfl, _, rfl⟩
    · exact (not_split_nil hnil).elim
  | refused other =>
    rcases split_cons hsplit with ⟨rfl, rfl⟩ | ⟨_, rfl, hnil⟩
    · exact Or.inl ⟨rfl, _, rfl⟩
    · exact (not_split_nil hnil).elim
  | kept taken =>
    obtain ⟨body, rfl⟩ := exists_of_isConflict taken
    rcases split_cons hsplit with ⟨rfl, rfl⟩ | ⟨_, rfl, hdelete⟩
    · exact Or.inl ⟨rfl, _, rfl⟩
    rcases split_cons hdelete with ⟨rfl, rfl⟩ | ⟨_, rfl, hnil⟩
    · exact Or.inr (Or.inl ⟨body, rfl, _, rfl⟩)
    · exact (not_split_nil hnil).elim
  | again taken =>
    obtain ⟨body, rfl⟩ := exists_of_isConflict taken
    rcases split_cons hsplit with ⟨rfl, rfl⟩ | ⟨_, rfl, hdelete⟩
    · exact Or.inl ⟨rfl, _, rfl⟩
    rcases split_cons hdelete with ⟨rfl, rfl⟩ | ⟨_, rfl, hcreate⟩
    · exact Or.inr (Or.inl ⟨body, rfl, _, rfl⟩)
    rcases split_cons hcreate with ⟨rfl, rfl⟩ | ⟨_, rfl, hnil⟩
    · exact Or.inr (Or.inr ⟨_, rfl, _, rfl⟩)
    · exact (not_split_nil hnil).elim

theorem Issues.count (h : Issues endpoint token issues r) :
    issues.countP Event.createsToken ≤ 2 ∧ issues.countP Event.deletesToken ≤ 1 := by
  cases h <;> simp [List.countP_cons, Event.createsToken, Event.deletesToken]

/-- No call that issues a token asks for the health of the cluster. -/
theorem Issues.not_onHealth (h : Issues endpoint token issues r) :
    ∀ event ∈ issues, ¬ event.OnHealth := by
  cases h <;> simp [Event.OnHealth]

theorem Issues.tokenId?_eq (h : Issues endpoint token issues r) :
    ∀ event ∈ issues, event.tokenId? = some token := by
  cases h <;> simp [Event.tokenId?]

/-- **A pass that issues the token behind the gate**, and calls for none before
    and after that, is gated. -/
theorem Gated.of_issues (first last : List Event) {integration : ServiceIntegration}
    (declared : es.spec.integration? = some integration)
    (opened : ∀ m, (∀ event ∈ m, ¬ event.OnHealth) → Opened es (first ++ m))
    (hfirst : ∀ event ∈ first, ¬ event.OnToken) (hlast : ∀ event ∈ last, ¬ event.OnToken)
    (h : Issues endpoint (tokenId integration) issues r) :
    Gated es (first ++ (issues ++ last)) := by
  -- A call for a token is one of those that issue it.
  have hsplit : ∀ {before event after}, first ++ (issues ++ last) = before ++ event :: after →
      event.OnToken → ∃ m m', before = first ++ m ∧ issues = m ++ event :: m' := by
    intro before event after heq hevent
    obtain ⟨m, rfl, hrest⟩ := split_rest hfirst heq hevent
    obtain ⟨m', hissues, -⟩ := split_first hlast hrest hevent
    exact ⟨m, m', rfl, hissues⟩
  have hcount : ∀ {counted : Event → Bool}, (∀ event, ¬ event.OnToken → counted event = false) →
      (first ++ (issues ++ last)).countP counted = issues.countP counted := by
    intro counted hcounted
    have hnone : ∀ {l : List Event}, (∀ event ∈ l, ¬ event.OnToken) → l.countP counted = 0 :=
      fun hl => List.countP_eq_zero.2 fun event hevent => by simp [hcounted event (hl event hevent)]
    rw [List.countP_append, List.countP_append, hnone hfirst, hnone hlast, Nat.zero_add,
      Nat.add_zero]
  refine {
    opened := fun heq hevent => ?_
    declared := fun {event token} hmem htoken => ⟨integration, declared, ?_⟩
    creates := (hcount fun _ => Event.createsToken_of_not_onToken) ▸ h.count.1
    deletes := (hcount fun _ => Event.deletesToken_of_not_onToken) ▸ h.count.2
    refused := fun heq => ?_
    again := fun heq => ?_ }
  · obtain ⟨m, m', rfl, hissues⟩ := hsplit heq hevent
    exact opened m fun event hm => h.not_onHealth event (by simp [hissues, hm])
  · have honToken : event.OnToken := by simp [Event.OnToken, htoken]
    have hissues : event ∈ issues := by
      rcases List.mem_append.1 hmem with hmem | hmem
      · exact absurd honToken (hfirst event hmem)
      · exact (List.mem_append.1 hmem).resolve_right fun hmem => hlast event hmem honToken
    exact (Option.some.inj ((h.tokenId?_eq event hissues).symm.trans htoken)).symm
  · obtain ⟨m, m', rfl, hissues⟩ := hsplit heq nofun
    rcases h.split hissues with ⟨-, _, hevent⟩ | ⟨body, rfl, _, hevent⟩ | ⟨_, -, _, hevent⟩
    · cases hevent
    · cases hevent
      exact ⟨first, body, rfl, hfirst⟩
    · cases hevent
  · obtain ⟨m, m', rfl, hissues⟩ := hsplit heq nofun
    rcases h.split hissues with ⟨rfl, _, -⟩ | ⟨_, -, _, hevent⟩ | ⟨e, rfl, _, hevent⟩
    · exact Or.inl (by rwa [List.append_nil])
    · cases hevent
    · cases hevent
      exact Or.inr ⟨first ++ [.manage endpoint (.createToken (tokenId integration)) (.error e)],
        by simp⟩

end Issues

/-! ## §3. Every pass -/

theorem serves_of_classify {colour : String} (h : Health.classify colour = .ready) :
    Serves colour := by
  unfold Health.classify at h
  dsimp only at h
  split at h
  · next hcolour => exact hcolour
  · cases h

/-- **Whatever the calls of a pass are answered**, it calls for tokens behind the
    gate. -/
theorem Gated.of_traces {r : Except PassError Report} (h : Traces (run es generated) events r) :
    Gated es events := by
  cases hns : es.metadata.ns with
  | none =>
    have hrun : run es generated
        = .fail (.missingNamespace s!"{DeclaredKind.elasticsearch.name}/{es.metadata.anyName}") := by
      simp only [run, namespaceOf, hns]
      rfl
    rw [hrun] at h
    obtain ⟨rfl, -⟩ := traces_fail_iff.1 h
    exact .of_none (by simp)
  | some ns =>
    rcases traces_run hns h with ⟨hbeside, -⟩ |
      ⟨before, probe, token, last, found, told, rfl, hbefore, hprobe, htoken, hlast⟩
    · exact .of_none fun event hevent => (hbeside event hevent).not_onToken
    have hprobe' : ∀ event ∈ probe, ¬ event.OnToken := by
      cases hprobe <;> simp [Event.OnToken, Event.tokenId?]
    have hlast' : ∀ event ∈ last, ¬ event.OnToken := by
      rcases hlast with ⟨rfl, -⟩ | ⟨answer, rfl, -⟩
      · simp
      · simp [lastCall, Event.OnToken, Event.tokenId?]
    have hbefore' : ∀ event ∈ before, ¬ event.OnToken :=
      fun event hevent => (hbefore event hevent).not_onToken
    cases htoken with
    | waits _ =>
      refine .of_none ?_
      simp only [List.append_nil, List.forall_mem_append]
      exact ⟨⟨hbefore', hprobe'⟩, hlast'⟩
    | asks ready reached declared asks =>
      cases asks with
      | told known =>
        refine .of_none ?_
        simp only [List.forall_mem_append, List.forall_mem_singleton]
        exact ⟨⟨⟨hbefore', hprobe'⟩, by simp [Event.OnToken, Event.tokenId?]⟩, hlast'⟩
      | @asks e issues created r missing issued kept =>
        -- The cluster was asked and is ready, and there is no secret.
        cases hprobe with
        | unreached => cases reached
        | failed => cases ready
        | @reported endpoint' report =>
          have hcreated : ∀ event ∈ created, ¬ event.OnToken := by
            rcases kept with rfl | ⟨object, answer, rfl, -⟩
            · simp
            · simp [Event.OnToken, Event.tokenId?]
          have hgated := Gated.of_issues (before ++ .manage endpoint' .health (.ok report)
              :: [.store (.get .secret (Naming.tokenSecret es.id) (some ns)) (.error e)])
            (created ++ last) declared ?_ ?_ (List.forall_mem_append.2 ⟨hcreated, hlast'⟩) issued
          · simpa using hgated
          · intro m hm
            refine ⟨before, endpoint', report, [], e, m, ?_, serves_of_classify ready, missing, ?_⟩
            · simp [hns]
            · rw [List.append_nil]
              exact List.forall_mem_append.2
                ⟨fun event hevent => (hbefore event hevent).not_onHealth, hm⟩
          · refine List.forall_mem_append.2 ⟨hbefore', ?_⟩
            simp [Event.OnToken, Event.tokenId?]

/-- **Tokens wait for the cluster**, for every declaration, whatever the store
    holds, whichever calls to it fail and whatever the management API answers. -/
theorem gated_course (es : LoggingOperator.Elasticsearch) (generated : String) (σ : Script)
    (s : Store) : Gated es ((run es generated).course σ s).events :=
  .of_traces (traces_course _ σ s)

end Pass.Elasticsearch

end LoggingOperator
