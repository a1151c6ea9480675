/-
  LoggingOperator.Proofs.Pass.TokenRaces — PASSES THAT ISSUE THE SAME TOKEN.

  However the calls of any passes over a declaration are interleaved, the
  secret holds a value that was issued.  It is the value that is valid if never
  two of the passes are about the token at the same time (`stored_token_live`),
  as when they run one after the other (`apart_of_serial`).
  The invariant is `Consistent`; it is kept by each call, because a pass that
  was given a value is the only one that is about the token, and where the
  secret is found nobody begins.  A value is valid as long as the cluster counts
  the token as issued (`hasToken_eq_live`).

  Where two passes are about the token, this fails, and it does so for every
  declaration that asks for a token but not for a password: the one deletes the
  token that the other one has just stored (`race`).  Since the secret is created
  once, no later pass puts this right.
-/
import LoggingOperator.Proofs.Pass.TokenTurns

namespace LoggingOperator

open Management (TokenId Endpoint)
open Program (World Pool Entry Turn Turns Environment Happens nobody)

namespace Pass.Elasticsearch

variable {es : LoggingOperator.Elasticsearch} {ns : String} {token : TokenId} {stage : Stage}
  {event : Event}

/-! ## §1. One call -/

/-- A pass that is given a token was issued it just now. -/
theorem token?_of_given {value : String} (hallowed : stage.Allows es ns token event)
    (h : Stage.after (tokenKey es ns) event = .given value) :
    event.token? token = some (some value) := by
  unfold Stage.after at h
  split at h
  · split at h <;> cases h
  · cases h
    exact if_pos hallowed.1
  · split at h <;> cases h
  · cases h
  · cases h

/-- A pass that did something about a token is not idle. -/
theorem after_ne_idle {change : Option String} {key : StoreKey}
    (h : event.token? token = some change) : Stage.after key event ≠ .idle := by
  unfold Event.token? at h
  split at h
  · exact nofun
  · exact nofun
  · cases h

/-- The token is the only one that a pass asks the cluster for. -/
theorem names_of_allows {endpoint : Endpoint} {call : Management.Call}
    {answer : Except Management.ManagementError call.Answer}
    (h : stage.Allows es ns token (.manage endpoint call answer)) :
    ∀ t, call = .createToken t ∨ call = .deleteToken t → t = token := by
  rintro t (rfl | rfl)
  · exact h.1
  · exact h.1

section Call

variable {env : Environment} {w w' : World} (h : Happens env w event w')
include h

/-- **Where the secret is, a pass that was idle stays idle.** -/
theorem idle_of_present (hquiet : ∀ e, ¬ env.injects e) {stored : Json}
    (hstored : w.store.object? (tokenKey es ns) = some stored)
    (hallowed : Stage.idle.Allows es ns token event) :
    Stage.after (tokenKey es ns) event = .idle := by
  unfold Stage.after
  split
  · next kind name ns' e =>
    refine if_neg fun hmissing => ?_
    obtain ⟨hkey, hnone⟩ := hmissing
    -- A read under the key finds the secret, unless it is made to fail.
    cases h with
    | store may answered =>
      cases Store.answered answered with
      | unnamed unnamed _ _ => cases unnamed
      | injected made _ _ => exact hquiet _ (may _ made)
      | acted named acted =>
        cases named
        cases acted with
        | missing _ absent =>
          rw [Store.object?_noted] at absent
          have absent : w.store.object? (StoreKey.of kind ns' name) = none := absent
          rw [hkey, hstored] at absent
          cases absent
  · obtain ⟨-, hstage | hstage⟩ := hallowed <;> cases hstage
  · obtain ⟨-, hstage | hstage⟩ := hallowed <;> cases hstage
  · cases hallowed.2
  · rfl

/-- **The secret changes only when it is created**, by a pass that was given the
    value that it holds then. -/
theorem secret_after (hallowed : stage.Allows es ns token event) :
    w'.store.object? (tokenKey es ns) = w.store.object? (tokenKey es ns)
      ∨ w.store.object? (tokenKey es ns) = none
        ∧ ∃ value stored, stage = .given value ∧ Stage.after (tokenKey es ns) event = .idle
          ∧ w'.store.object? (tokenKey es ns) = some stored
          ∧ Secret.text? "token" stored = some value := by
  cases h with
  | manage may => exact Or.inl rfl
  | @store call injected answer after may answered =>
    have hends := Store.answered answered
    -- Only a write under the key changes what is there, and only a pass that was given a
    -- value writes there: it creates the secret.
    by_cases hwritten : ∃ name stored, call.name = .ok name ∧ call.op.isWrite = true
        ∧ answer = .ok stored ∧ tokenKey es ns = StoreKey.of call.kind call.ns? name
    · obtain ⟨name, stored, hname, hwrite, rfl, hkey⟩ := hwritten
      obtain ⟨value, rfl, _, object, ⟨owner, howner, rfl⟩, hobject, rfl⟩ :=
        hallowed name hwrite hname hkey.symm
      cases hends with
      | acted named acted =>
        cases named.symm.trans hname
        rw [← hkey] at acted
        cases acted with
        | created absent =>
          refine Or.inr ⟨absent, value, _, rfl, rfl,
            (Store.object?_put _ _ _).trans (if_pos rfl), ?_⟩
          rw [Secret.text?_of_wrote rfl (.created _ hobject), if_pos rfl, Text.Base64.text?_bytes]
    · refine Or.inl (hends.object?_eq fun name stored hname hwrite hanswer hkey => ?_)
      exact hwritten ⟨name, stored, hname, hwrite, hanswer, hkey⟩

end Call

/-! ## §2. Any passes, in any interleaving -/

variable (es ns token) in
/-- What one of the passes is doing about the token, after what happened. -/
def stageOf (i : Nat) (history : List Entry) : Stage :=
  (stages es ns token).stage .idle i history

variable (es ns token) in
/-- Never two passes were about the token at the same time. -/
def Apart (history : List Entry) : Prop :=
  ∀ earlier, earlier <:+ history → ∀ i j, stageOf es ns token i earlier ≠ .idle →
    stageOf es ns token j earlier ≠ .idle → i = j

section History

variable {entry : Entry} {history : List Entry} {i : Nat}

theorem Apart.tail (h : Apart es ns token (entry :: history)) : Apart es ns token history :=
  fun _ hsuffix => h _ (hsuffix.trans (List.suffix_cons _ _))

/-- While one pass is about the token, the others are idle. -/
theorem Apart.idle (h : Apart es ns token history) (hi : stageOf es ns token i history ≠ .idle)
    {j : Nat} (hj : j ≠ i) : stageOf es ns token j history = .idle := by
  cases hstage : stageOf es ns token j history with
  | idle => rfl
  | _ =>
    refine absurd (h history (List.suffix_refl _) j i ?_ hi) hj
    rw [hstage]
    nofun

theorem stageOf_self (event : Event) :
    stageOf es ns token i (⟨some i, event⟩ :: history) = Stage.after (tokenKey es ns) event :=
  Monitor.stage_cons_self ..

theorem stageOf_other (event : Event) {j : Nat} (hj : j ≠ i) :
    stageOf es ns token j (⟨some i, event⟩ :: history) = stageOf es ns token j history :=
  Monitor.stage_cons_of_ne _ _ (fun h => hj (Option.some.inj h).symm) _
end History

/-- **What holds after any calls.**  A value that a pass was given was issued, and
    so was the value that the secret holds.  As long as the passes stay apart,
    such a value is valid, and where the secret is, nobody is about the token. -/
structure Consistent (es : LoggingOperator.Elasticsearch) (ns : String) (token : TokenId)
    (r : Pool PassError Report) : Prop where
  given : ∀ i value, stageOf es ns token i r.history = .given value →
    value ∈ issued token r.history
      ∧ (Apart es ns token r.history → live token r.history = some value)
  stored : ∀ stored, r.world.store.object? (tokenKey es ns) = some stored →
    ∃ value, Secret.text? "token" stored = some value ∧ value ∈ issued token r.history
      ∧ (Apart es ns token r.history → live token r.history = some value
        ∧ ∀ i, stageOf es ns token i r.history = .idle)

section Step

variable {env : Environment} {r r' : Pool PassError Report} {i : Nat}

variable (es ns token) in
/-- A pass does something about the token only while it is not idle. -/
theorem live_eq_or (hhistory : r'.history = ⟨some i, event⟩ :: r.history) :
    live token r'.history = live token r.history ∨ stageOf es ns token i r'.history ≠ .idle := by
  rw [hhistory]
  cases hchange : event.token? token with
  | none => exact Or.inl (live_of_none hchange)
  | some change =>
    rw [stageOf_self]
    exact Or.inr (after_ne_idle hchange)

variable (token) in
/-- Where one pass becomes idle and the others are, nobody is about the token,
    and nothing happened to it. -/
theorem all_idle (hhistory : r'.history = ⟨some i, event⟩ :: r.history)
    (hself : Stage.after (tokenKey es ns) event = .idle)
    (hothers : ∀ j, j ≠ i → stageOf es ns token j r.history = .idle) :
    live token r'.history = live token r.history
      ∧ ∀ j, stageOf es ns token j r'.history = .idle := by
  have hall : ∀ j, stageOf es ns token j r'.history = .idle := by
    intro j
    rw [hhistory]
    by_cases hj : j = i
    · subst hj
      rw [stageOf_self, hself]
    · rw [stageOf_other event hj, hothers j hj]
  rcases live_eq_or es ns token hhistory with hkept | hbusy
  · exact ⟨hkept, hall⟩
  · exact absurd (hall i) hbusy

variable (hr : Consistent es ns token r) (hhistory : r'.history = ⟨some i, event⟩ :: r.history)
  (hallowed : (stageOf es ns token i r.history).Allows es ns token event)
include hr hhistory hallowed

/-- What passes were given, after one more call. -/
theorem Consistent.given_step (j : Nat) (value : String)
    (hstage : stageOf es ns token j r'.history = .given value) :
    value ∈ issued token r'.history
      ∧ (Apart es ns token r'.history → live token r'.history = some value) := by
  by_cases hj : j = i
  · subst hj
    rw [hhistory, stageOf_self] at hstage
    have hchange := token?_of_given hallowed hstage
    rw [hhistory]
    exact ⟨mem_issued_of_given hchange, fun _ => live_of_given hchange⟩
  · have hbefore := hstage
    rw [hhistory, stageOf_other event hj] at hbefore
    obtain ⟨hissued, hlive⟩ := hr.given j value hbefore
    constructor
    · rw [hhistory]
      exact mem_issued_cons hissued
    · intro hapart
      -- The other pass left the token alone, or the two were not apart.
      rcases live_eq_or es ns token hhistory with hsame | hbusy
      · rw [hsame]
        rw [hhistory] at hapart
        exact hlive hapart.tail
      · rw [hapart.idle hbusy hj] at hstage
        cases hstage

/-- What the secret holds, after one more call. -/
theorem Consistent.stored_step (hquiet : ∀ e, ¬ env.injects e)
    (happens : Happens env r.world event r'.world) {stored : Json}
    (hstored : r'.world.store.object? (tokenKey es ns) = some stored) :
    ∃ value, Secret.text? "token" stored = some value ∧ value ∈ issued token r'.history
      ∧ (Apart es ns token r'.history → live token r'.history = some value
        ∧ ∀ i, stageOf es ns token i r'.history = .idle) := by
  rcases secret_after happens hallowed with
    hsame | ⟨-, value, created, hstage, hidle, hcreated, htext⟩
  · -- The secret was there, so that nobody was about the token.
    rw [hsame] at hstored
    obtain ⟨value, htext, hissued, hlive⟩ := hr.stored stored hstored
    refine ⟨value, htext, hhistory ▸ mem_issued_cons hissued, fun hapart => ?_⟩
    rw [hhistory] at hapart
    obtain ⟨hlive, hidle⟩ := hlive hapart.tail
    rw [hidle i] at hallowed
    have hstays := idle_of_present happens hquiet hstored hallowed
    obtain ⟨hkept, hall⟩ := all_idle token hhistory hstays fun j _ => hidle j
    exact ⟨hkept.trans hlive, hall⟩
  · -- The secret was created, with the value that the pass was given.
    cases hcreated.symm.trans hstored
    obtain ⟨hissued, hlive⟩ := hr.given i value hstage
    refine ⟨value, htext, hhistory ▸ mem_issued_cons hissued, fun hapart => ?_⟩
    rw [hhistory] at hapart
    have hbusy : stageOf es ns token i r.history ≠ .idle := by
      rw [hstage]
      exact nofun
    obtain ⟨hkept, hall⟩ := all_idle token hhistory hidle fun j hj => hapart.tail.idle hbusy hj
    exact ⟨hkept.trans (hlive hapart.tail), hall⟩

end Step

/-- Every pass over the declaration goes through the stages. -/
theorem watches_passes {integration : ServiceIntegration} (hns : es.metadata.ns = some ns)
    (hintegration : es.spec.integration? = some integration) (passwords : List String)
    (w : World) :
    (stages es ns (tokenId integration)).Watches
      (fun r stage => ∀ report, r = .ok report → stage = .idle) .idle
      (Pool.start (passwords.map (run es)) w) := by
  refine Monitor.watches_start (fun program hprogram => ?_) w
  obtain ⟨generated, -, rfl⟩ := List.mem_map.1 hprogram
  exact obeys_run hintegration hns generated

/-- **The value that is live is that of a token that the cluster has issued**, and
    where none is live, the cluster has not issued the token or has deleted it. -/
theorem hasToken_eq_live {integration : ServiceIntegration} (hns : es.metadata.ns = some ns)
    (hintegration : es.spec.integration? = some integration) (passwords : List String) {w : World}
    (hnone : w.cluster.hasToken (tokenId integration) = false) {p : Pool PassError Report}
    (h : Turns issuing nobody (Pool.start (passwords.map (run es)) w) p) :
    p.world.cluster.hasToken (tokenId integration)
      = (live (tokenId integration) p.history).isSome := by
  refine (h.preserves (watches_passes hns hintegration passwords w)
    (I := fun r => r.world.cluster.hasToken (tokenId integration)
      = (live (tokenId integration) r.history).isSome) hnone ?_).1
  intro r entry r' hr turn hallowed
  obtain ⟨⟨i, hi⟩, happens⟩ := turn.of_nobody
  have hallowed := hallowed i hi
  rw [turn.history_eq, live]
  generalize entry.event = event at happens hallowed
  generalize r'.world = w' at happens
  cases happens with
  | store may answered => exact hr
  | @manage endpoint call answer after may =>
    rw [hasToken_of_answers may (names_of_allows hallowed), hr]
    cases (Event.manage endpoint call answer).token? (tokenId integration) <;> rfl

/-- The passes ran one after the other: at each call of one pass, any other one had
    made no call yet, or had made its last call and came to its end. -/
def Serial (p : Pool PassError Report) : Prop :=
  ∀ later entry earlier i, p.history = later ++ entry :: earlier → entry.member = some i →
    ∀ j, j ≠ i → (∀ e ∈ earlier, e.member ≠ some j)
      ∨ (∀ e ∈ later, e.member ≠ some j) ∧ ∃ report, p.members[j]? = some (.done report)

/-- **Passes that run one after the other are never about the token at the same
    time.** -/
theorem apart_of_serial {integration : ServiceIntegration} (hns : es.metadata.ns = some ns)
    (hintegration : es.spec.integration? = some integration) {env : Environment}
    (passwords : List String) {w : World} {p : Pool PassError Report}
    (h : Turns env nobody (Pool.start (passwords.map (run es)) w) p) (hserial : Serial p) :
    Apart es ns (tokenId integration) p.history := by
  obtain ⟨hmembers, hwatched⟩ := h.preserves (watches_passes hns hintegration passwords w)
    (I := fun r => ∀ entry ∈ r.history, ∃ i, entry.member = some i)
    (fun _ hentry => absurd hentry List.not_mem_nil) fun hr turn _ => by
      rw [turn.history_eq]
      exact List.forall_mem_cons.2 ⟨turn.of_nobody.1, hr⟩
  -- At a call of one pass, all the others are idle.
  have hothers : ∀ later entry earlier i, p.history = later ++ entry :: earlier →
      entry.member = some i → ∀ j, j ≠ i →
        stageOf es ns (tokenId integration) j (entry :: earlier) = .idle := by
    intro later entry earlier i hhistory hentry j hj
    have hother : entry.member ≠ some j := fun hsame =>
      hj (Option.some.inj (hsame.symm.trans hentry))
    rcases hserial later entry earlier i hhistory hentry j hj with hsilent | ⟨hsilent, _, hdone⟩
    · exact Monitor.stage_of_silent _ _ (List.forall_mem_cons.2 ⟨hother, hsilent⟩)
    · have hidle := hwatched j _ hdone _ rfl
      rw [hhistory, Monitor.stage_append_of_silent _ _ hsilent] at hidle
      exact hidle
  rintro earlier ⟨later, hhistory⟩ i j hi hj
  cases earlier with
  | nil => exact absurd rfl hi
  | cons entry earlier =>
    -- So the two are the pass that made the latest call.
    obtain ⟨k, hk⟩ := hmembers entry (hhistory ▸ List.mem_append_right _ List.mem_cons_self)
    have hself : ∀ l, stageOf es ns (tokenId integration) l (entry :: earlier) ≠ .idle → l = k :=
      fun l hl => Decidable.byContradiction fun hne =>
        hl (hothers later entry earlier k hhistory.symm hk l hne)
    rw [hself i hi, hself j hj]

/-- **The secret holds a value that was issued, and the valid one if never two
    passes were about the token at the same time.**  This is so after any calls
    of any passes over a declaration, whatever the cluster answers, if no call to
    the object store is made to fail and the secret was not there before. -/
theorem stored_token_live {integration : ServiceIntegration} (hns : es.metadata.ns = some ns)
    (hintegration : es.spec.integration? = some integration) {env : Environment}
    (hquiet : ∀ e, ¬ env.injects e) (passwords : List String) {w : World}
    (habsent : w.store.object? (tokenKey es ns) = none) {p : Pool PassError Report}
    (h : Turns env nobody (Pool.start (passwords.map (run es)) w) p) {stored : Json}
    (hstored : p.world.store.object? (tokenKey es ns) = some stored) :
    ∃ value, Secret.text? "token" stored = some value
      ∧ value ∈ issued (tokenId integration) p.history
      ∧ (Apart es ns (tokenId integration) p.history →
        live (tokenId integration) p.history = some value) := by
  have hwatched := watches_passes hns hintegration passwords w
  have hstart : Consistent es ns (tokenId integration) (Pool.start (passwords.map (run es)) w) :=
    ⟨nofun, fun _ hfound => by cases habsent.symm.trans hfound⟩
  -- By induction on the turns, each of which is an allowed call of a pass.
  obtain ⟨hconsistent, -⟩ := h.preserves hwatched hstart
    fun {r entry r'} hr turn hallowed => by
      obtain ⟨⟨i, hi⟩, happens⟩ := turn.of_nobody
      obtain ⟨_, event⟩ := entry
      cases hi
      have hallowed := hallowed i rfl
      exact ⟨hr.given_step turn.history_eq hallowed,
        fun _ => hr.stored_step turn.history_eq hallowed hquiet happens⟩
  obtain ⟨value, htext, hissued, hlive⟩ := hconsistent.stored stored hstored
  exact ⟨value, htext, hissued, fun hapart => (hlive hapart).1⟩

/-- Of two passes one stores a token while the other one waits. -/
theorem stored_token_live_dashboarded :
    ∃ p stored, Turns issuing nobody
        (Pool.start (["", ""].map (run dashboarded)) dashboardedWorld) p
      ∧ p.world.store.object? (tokenKey dashboarded "ns") = some stored
      ∧ Secret.text? "token" stored = some "first"
      ∧ live (tokenId {}) p.history = some "first" := by
  obtain ⟨owner, howner, hns, hname⟩ := owner_dashboarded
  have hes := integrated_dashboarded howner
  obtain ⟨_, w₁, hlooked, hw₁⟩ := (Reaches.start_pool (tokenId {}) [0]
    (["", ""].map (run dashboarded)) dashboardedWorld).probe hes List.mem_cons_self rfl
      (ready_dashboardedWorld hns hname)
  obtain ⟨_, w₂, ⟨p, hturns, -, rfl, -, -, hmovers⟩, hkept⟩ :=
    hlooked.issue hes List.mem_cons_self rfl hw₁ "first"
  obtain ⟨stored, hstored, htext⟩ := hkept.stored
  rw [hns] at hstored
  have hserial : Serial p := by
    intro later entry earlier i hhistory hentry j hj
    refine Or.inl fun e he hmember => hj ?_
    -- There are only calls of the first pass.
    have hall : ∀ e ∈ p.history, ∀ l, e.member = some l → l = 0 := fun e he l hl => by
      obtain ⟨l', hl', hmember⟩ := hmovers e he
      cases hl.symm.trans hmember
      exact List.mem_singleton.1 hl'
    rw [hall e (hhistory ▸ by simp [he]) j hmember, hall entry (hhistory ▸ by simp) i hentry]
  have hapart := apart_of_serial rfl rfl ["", ""] hturns hserial
  obtain ⟨value, hvalue, -, hlive⟩ :=
    stored_token_live rfl rfl (fun _ => id) ["", ""] rfl hturns hstored
  cases htext.symm.trans hvalue
  exact ⟨p, stored, hturns, hstored, htext, hlive hapart⟩

/-! ## §3. The race -/

/-- **Two passes may both come to their ends and leave a token in the secret that
    was taken away**: the first one runs after the other one has looked for the
    secret and before that one asks for the token.  This may happen to every
    declaration of this kind, and with any values. -/
theorem race {owner : Owner} {integration : ServiceIntegration}
    (hes : Integrated es owner integration) {w : World}
    (hw : Ready es owner (tokenId integration) w) (first second : String) :
    ∃ report report' w', Reaches (tokenId integration) (Pool.start [run es "", run es ""] w) [0, 1]
        [.done report, .done report'] w' [second, first] (some second)
      ∧ Kept es owner (tokenId integration) first w' := by
  have hstart := Reaches.start_pool (tokenId integration) [0, 1] [run es "", run es ""] w
  have hone : 0 ∈ [0, 1] := List.mem_cons_self
  have hother : 1 ∈ [0, 1] := List.mem_cons_of_mem 0 List.mem_cons_self
  obtain ⟨p, w₁, hlooked, hw₁⟩ := hstart.probe hes hother rfl hw
  obtain ⟨p', w₂, hlooked', hw₂⟩ := hlooked.probe hes hone rfl hw₁
  obtain ⟨report, w₃, hissued, hw₃⟩ := hlooked'.issue hes hone rfl hw₂ first
  obtain ⟨report', w₄, hreissued, hw₄⟩ := hissued.reissue hes hother rfl hw₃ second
  exact ⟨report, report', w₄, hreissued, hw₄⟩

/-- **The secret may hold a token that was taken away**, although every value was
    issued once, nothing failed and both passes came to their ends. -/
theorem revoked_token_stored :
    dashboarded.spec.integration? = some {}
      ∧ dashboardedWorld.store.failures = []
      ∧ dashboardedWorld.store.object? (tokenKey dashboarded "ns") = none
      ∧ ∃ p, Turns issuing nobody
          (Pool.start [run dashboarded "", run dashboarded ""] dashboardedWorld) p
        ∧ (∀ program ∈ p.members, ∃ report, program = .done report)
        ∧ (issued (tokenId {}) p.history).Nodup
        ∧ (∃ stored, p.world.store.object? (tokenKey dashboarded "ns") = some stored
          ∧ Secret.text? "token" stored = some "first")
        ∧ live (tokenId {}) p.history = some "second" := by
  obtain ⟨owner, howner, hns, hname⟩ := owner_dashboarded
  obtain ⟨report, report', w, ⟨p, hturns, hmembers, rfl, hissued, hlive, -⟩, hkept⟩ :=
    race (integrated_dashboarded howner) (ready_dashboardedWorld hns hname) "first" "second"
  refine ⟨rfl, rfl, rfl, p, hturns, ?_, ?_, hns ▸ hkept.stored, hlive⟩
  · rw [hmembers]
    simp
  · rw [hissued]
    decide

end Pass.Elasticsearch

end LoggingOperator
