/-
  LoggingOperator.Proofs.Pass.Leads — WHAT A PART OF A PASS LEADS TO.

  `Leads env plan p w Post` says of a part `p` of a pass, started in `w`, that
  whatever happens to its calls it only works towards the plan, and that
  `Post` holds if it comes to its end.  Where nothing fails and the cluster is
  ready (`Fair`) it does come to its end.  One proof of this serves for passes
  that are interrupted and for those that are not.

  There is one rule for each way to put a pass together, and one for each way
  to write an object: `leads_converge` and `leads_ensureOnce`.
-/
import LoggingOperator.Pass.Error
import LoggingOperator.Declaration.Health
import LoggingOperator.Proofs.Pass.Advance

namespace LoggingOperator

namespace Management

/-- The cluster reports that it is ready, and issues tokens. -/
structure Cluster.Serves (c : Cluster) : Prop where
  ready : ∃ report, c.health = .ok report ∧ Health.classify report.colour = .ready
  issuing : ∃ value, c.token = .ok value

/-- No call changes what a cluster reports and issues. -/
theorem Cluster.serves_answer {c : Cluster} (endpoint : Endpoint) (call : Call) :
    (c.answer endpoint call).2.Serves ↔ c.Serves := by
  -- Reports and tokens to come are given with the cluster; calls change the rest of it.
  have hframe : (c.answer endpoint call).2.health = c.health
      ∧ (c.answer endpoint call).2.token = c.token := by
    cases call with
    | health => exact ⟨rfl, rfl⟩
    | createToken token =>
      simp only [Cluster.answer, Cluster.act, Cluster.issue, Cluster.addToken]
      split
      · exact ⟨rfl, rfl⟩
      · split
        · exact ⟨rfl, rfl⟩
        · exact ⟨rfl, rfl⟩
    | deleteToken token => exact ⟨rfl, rfl⟩
    | get kind name => exact ⟨rfl, rfl⟩
    | put kind name body => cases kind <;> exact ⟨rfl, rfl⟩
    | delete kind name => cases kind <;> exact ⟨rfl, rfl⟩
  constructor
  · intro h
    exact ⟨hframe.1 ▸ h.ready, hframe.2 ▸ h.issuing⟩
  · intro h
    exact ⟨hframe.1.symm ▸ h.ready, hframe.2.symm ▸ h.issuing⟩

end Management

namespace Pass

open Program (World Environment Runs StoreOnly)
open Management (Call Cluster Endpoint ManagementError)
open Convergence (Outcome decide converge createOnce ensureOnce Converges runs_converge stored?)

variable {ε α β : Type}

/-! ## §1. Environments in which a pass comes to its end -/

/-- No read is made to find nothing. -/
def Tame (env : Environment) : Prop :=
  ∀ e, env.injects e → e.isNotFound = false

/-- Nothing fails and the cluster is ready. -/
structure Fair (env : Environment) (c : Cluster) : Prop where
  quiet : ∀ e, ¬ env.injects e
  honest : ∀ {c : Cluster} {endpoint : Endpoint} {call : Call}
    {answer : Except ManagementError call.Answer} {after : Cluster},
    env.answers c endpoint call answer after → c.answer endpoint call = (answer, after)
  serves : c.Serves

theorem tame_stormy : Tame Program.stormy :=
  fun _ h => h

theorem tame_calm : Tame Program.calm :=
  fun _ h => h.elim

theorem fair_calm {c : Cluster} (h : c.Serves) : Fair Program.calm c :=
  ⟨fun _ h => h, fun h => h, h⟩

/-- Fairness lasts, and does not come about on the way. -/
theorem fair_answer_iff {env : Environment} {c after : Cluster} {endpoint : Endpoint} {call : Call}
    {answer : Except ManagementError call.Answer}
    (hanswer : env.answers c endpoint call answer after) : Fair env after ↔ Fair env c := by
  constructor
  · intro h
    have hserves := h.serves
    rw [show after = (c.answer endpoint call).2 by rw [h.honest hanswer]] at hserves
    exact ⟨h.quiet, h.honest, (Cluster.serves_answer endpoint call).1 hserves⟩
  · intro h
    have hserves := (Cluster.serves_answer endpoint call).2 h.serves
    rw [h.honest hanswer] at hserves
    exact ⟨h.quiet, h.honest, hserves⟩

/-- A cluster that serves does so after any program. -/
theorem serves_run (p : Program ε α) {w : World} (h : w.cluster.Serves) :
    (p.run w).2.cluster.Serves := by
  induction p generalizing w with
  | done a => exact h
  | fail e => exact h
  | store call next ih => exact ih _ h
  | manage endpoint call next ih => exact ih _ ((Cluster.serves_answer endpoint call).2 h)

/-! ## §2. Parts of a pass -/

/-- The part of a pass works towards the plan, and `Post` holds at its end. -/
def Leads (env : Environment) (plan : Plan) (p : Program ε α) (w : World)
    (Post : α → World → Prop) : Prop :=
  ∀ r w', Runs env p w r w' →
    Advances plan w.store w'.store
      ∧ (Fair env w'.cluster ↔ Fair env w.cluster)
      ∧ (∀ a, r = .ok a → Post a w')
      ∧ (∀ e, r = .error e → ¬ Fair env w.cluster)

section Rules

variable {env : Environment} {plan : Plan} {own : StoreKey} {w : World}
  {Post : α → World → Prop}

theorem leads_done {a : α} (h : Post a w) :
    Leads env plan (.done a : Program ε α) w Post := by
  intro r w' hrun
  obtain ⟨rfl, rfl⟩ := Program.runs_done_iff.1 hrun
  exact ⟨.refl _ _, .rfl, fun _ ha => Except.ok.inj ha ▸ h, nofun⟩

/-- One part after the other. -/
theorem leads_bind {p : Program ε α} {f : α → Program ε β} {Post' : β → World → Prop}
    (hp : Leads env plan p w Post)
    (hf : ∀ a between, Advances plan w.store between.store →
      (Fair env between.cluster ↔ Fair env w.cluster) → Post a between →
      Leads env plan (f a) between Post') :
    Leads env plan (p.bind f) w Post' := by
  intro r w' hrun
  rcases Program.runs_bind_iff.1 hrun with ⟨e, he, rfl⟩ | ⟨a, between, ha, hrest⟩
  · obtain ⟨hadvances, hfair, -, herror⟩ := hp _ _ he
    exact ⟨hadvances, hfair, nofun, fun _ _ => herror e rfl⟩
  · obtain ⟨hadvances, hfair, hpost, -⟩ := hp _ _ ha
    obtain ⟨hadvances', hfair', hpost', herror'⟩ := hf a between hadvances hfair (hpost a rfl) _ _ hrest
    exact ⟨hadvances.trans hadvances', hfair'.trans hfair, hpost',
      fun e he h => herror' e he (hfair.2 h)⟩

/-- What holds at the end, with what is known of the way there. -/
theorem Leads.weaken {p : Program ε α} {Post' : α → World → Prop} (h : Leads env plan p w Post)
    (himp : ∀ a w', Advances plan w.store w'.store →
      (Fair env w'.cluster ↔ Fair env w.cluster) → Post a w' → Post' a w') :
    Leads env plan p w Post' := by
  intro r w' hrun
  obtain ⟨hadvances, hfair, hpost, herror⟩ := h _ _ hrun
  exact ⟨hadvances, hfair, fun a ha => himp a w' hadvances hfair (hpost a ha), herror⟩

/-- What a builder gives, if it gives anything. -/
theorem leads_ofBuild {built : Except BuildError α} {a : α} {f : α → Pass β}
    {Post : β → World → Prop} (h : built = .ok a) (hf : Leads env plan (f a) w Post) :
    Leads env plan ((ofBuild built).bind f) w Post := by
  subst h
  exact hf

/-- A read of one object. -/
theorem leads_get {kind : Kind} {name : String} {ns : Option String}
    {next : Except StoreError Json → Program ε α}
    (hinjected : ∀ e between, env.injects e → between.store.objects = w.store.objects →
      between.cluster = w.cluster → Leads env plan (next (.error e)) between Post)
    (hanswer : ∀ between, between.store.objects = w.store.objects →
      between.cluster = w.cluster →
      Leads env plan (next (w.store.get kind (StoreKey.of kind ns name))) between Post) :
    Leads env plan (.store (.get kind name ns) next) w Post := by
  intro r w' hrun
  have hcall : (StoreCall.get kind name ns).name = .ok name := rfl
  have hread : Advances plan w.store (w.store.noted (.get kind name ns) name) := by
    refine .rest rfl ?_
    rw [Store.writes_noted, if_neg (by simp [StoreCall.op, StoreOp.isWrite]), List.append_nil]
  rcases (Program.runs_store_iff hcall).1 hrun with ⟨e, he, hrest⟩ | hrest
  · obtain ⟨hadvances, hrest⟩ := hinjected e
      ⟨w.store.noted (.get kind name ns) name, w.cluster⟩ he rfl rfl _ _ hrest
    exact ⟨hread.trans hadvances, hrest⟩
  · obtain ⟨hadvances, hrest⟩ := hanswer
      ⟨w.store.noted (.get kind name ns) name, w.cluster⟩ rfl rfl _ _ hrest
    exact ⟨hread.trans hadvances, hrest⟩

/-- A call to the management API. -/
theorem leads_manage {endpoint : Endpoint} {call : Call}
    {next : Except ManagementError call.Answer → Program ε α}
    (h : ∀ answer after, env.answers w.cluster endpoint call answer after →
      Leads env plan (next answer) { w with cluster := after } Post) :
    Leads env plan (.manage endpoint call next) w Post := by
  intro r w' hrun
  obtain ⟨answer, after, hanswer, hrest⟩ := Program.runs_manage_iff.1 hrun
  obtain ⟨hadvances, hfair, hpost, herror⟩ := h answer after hanswer _ _ hrest
  have hlasts := fair_answer_iff hanswer
  exact ⟨hadvances, hfair.trans hlasts, hpost, fun e he h => herror e he (hlasts.2 h)⟩

/-- A program that fails, where something was made to fail. -/
theorem leads_fail {e : ε} (h : ¬ Fair env w.cluster) :
    Leads env plan (.fail e : Program ε α) w Post := by
  intro r w' hrun
  obtain ⟨rfl, rfl⟩ := Program.runs_fail_iff.1 hrun
  exact ⟨.refl _ _, .rfl, nofun, fun _ _ => h⟩

/-- A read of an object that is there. -/
theorem leads_read {kind : Kind} {name : String} {ns : Option String} {stored : Json}
    (h : w.store.object? (StoreKey.of kind ns name) = some stored) :
    Leads env plan (ofStore (.callStore (.get kind name ns))) w fun _ _ => True := by
  refine leads_get ?_ ?_
  · intro e between he _ hcluster
    exact leads_fail fun hfair => hfair.quiet e he
  · intro between _ _
    rw [Store.get, h]
    exact leads_done trivial

/-! ## §3. Objects that are brought to what is declared -/

theorem storeOnly_converge (kind : Kind) (desired : Json) : (converge kind desired).StoreOnly := by
  unfold converge
  split
  · trivial
  · intro answer
    dsimp only
    split
    · trivial
    · unfold Convergence.settle
      dsimp only
      split
      · trivial
      · trivial
      · intro answer
        cases answer <;> trivial

/-- A pass over one object advances towards a plan that has the object. -/
theorem advances_of_converges {g : Goal} {desired : Json} (hplan : plan.Sound own)
    (aim : plan g desired) (honce : g.once = false) {s s' : Store}
    {r : Except StoreError Outcome} (h : Converges env g.kind desired s r s') :
    Advances plan s s' := by
  have hgenerated := hplan.generated aim
  have hkey : ∀ {name}, desired.name = .ok name →
      Convergence.keyOf g.kind desired name = g.key := by
    intro name hname
    cases hgenerated.named.symm.trans hname
    rw [Convergence.keyOf, hgenerated.placed]
    rfl
  have habsent : g.once = true → s.object? g.key = none := by
    rw [honce]
    nofun
  -- A write that was made to fail counts as an attempt too.
  cases h with
  | injected may same idle =>
    rcases idle with silent | ⟨name, hname, needed⟩
    · exact .rest same silent
    · rw [hkey hname] at needed
      exact .attempt aim habsent needed (Or.inl same)
  | refused why same silent => exact .rest same silent
  | skipped _ _ _ same silent => exact .rest same silent
  | wrote named decided writes made stored noted =>
    rw [hkey named] at decided made stored
    exact .attempt aim habsent (by rw [decided]; exact writes) (Or.inr ⟨_, made, stored⟩)

/-- **An object that is kept as declared**: at the end its goal is settled. -/
theorem leads_converge (htame : Tame env) (hplan : plan.Sound own) {g : Goal} {desired : Json}
    (aim : plan g desired) (honce : g.once = false) :
    Leads env plan (ofStore (converge g.kind desired)) w fun _ w' => Settled plan g w'.store := by
  intro r w' hrun
  obtain ⟨r₀, hrun₀, rfl⟩ := Program.runs_mapError_iff.1 hrun
  have hgenerated := hplan.generated aim
  have hcluster := hrun₀.cluster_eq (storeOnly_converge g.kind desired)
  have hends := runs_converge htame hrun₀
  refine ⟨advances_of_converges hplan aim honce hends, by rw [hcluster], ?_, ?_⟩
  · intro outcome houtcome
    cases r₀ with
    | error e => cases houtcome
    | ok outcome₀ =>
      obtain ⟨stored, hname, hstored, -, hskip⟩ := hends.settled hgenerated.canonical
      have hsame : g.name = outcome₀.name := Except.ok.inj (hgenerated.named.symm.trans hname)
      refine ⟨stored, ?_, fun _ d hd => ?_⟩
      · rw [Convergence.keyOf, hgenerated.placed, ← hsame] at hstored
        exact hstored
      · rw [hplan.single hd aim honce]
        exact hskip
  -- Where all is fair, only objects without a name or annotations are refused.
  · intro e he hfair
    cases r₀ with
    | ok _ => cases he
    | error e₀ =>
      cases hends with
      | injected may _ _ => exact hfair.quiet _ may
      | refused why _ _ =>
        obtain ⟨object, hobject⟩ := hgenerated.recordable
        rcases why with hunnamed | ⟨_, _, _, hrefused⟩
        · rw [hgenerated.named] at hunnamed
          cases hunnamed
        · rw [hobject] at hrefused
          cases hrefused

/-! ## §4. Objects that are created once -/

/-- An object is sent to be created where there is none. -/
theorem leads_createOnce {g : Goal} {desired : Json} (hplan : plan.Sound own)
    (aim : plan g desired) (honce : g.once = true) (habsent : w.store.object? g.key = none) :
    Leads env plan (createOnce PassError.store g.kind g.name desired) w fun _ w' =>
      Fair env w.cluster → Settled plan g w'.store := by
  intro r w' hrun
  have hgenerated := hplan.generated aim
  obtain ⟨object, hobject⟩ := hgenerated.recordable
  have hkey : Convergence.keyOf g.kind desired g.name = g.key := by
    rw [Convergence.keyOf, hgenerated.placed]
    rfl
  have hneeded : decide g.kind desired (w.store.object? g.key) ≠ .skip := by
    rw [habsent]
    nofun
  have hcall : (StoreCall.create g.kind object).name = .ok g.name :=
    (Convergence.name_withLastApplied hobject).trans hgenerated.named
  unfold createOnce at hrun
  have hprepared : Convergence.prepareCreate desired = .ok object := hobject
  rw [hprepared] at hrun
  rcases (Program.runs_store_iff hcall).1 hrun with ⟨e, he, hrest⟩ | hrest
  · -- Sent in vain, the object is not there, whatever is said about it.
    have hsame : w'.store.objects = w.store.objects ∧ w'.cluster = w.cluster := by
      cases e with
      | alreadyExists kind name =>
        obtain ⟨-, rfl⟩ := Program.runs_done_iff.1 hrest
        exact ⟨rfl, rfl⟩
      | _ =>
        obtain ⟨-, rfl⟩ := Program.runs_fail_iff.1 hrest
        exact ⟨rfl, rfl⟩
    exact ⟨.attempt aim (fun _ => habsent) hneeded (Or.inl hsame.1),
      by rw [hsame.2], fun _ _ hfair => absurd he (hfair.quiet e),
      fun _ _ hfair => absurd he (hfair.quiet e)⟩
  · have hnone : (w.store.noted (.create g.kind object) g.name).object?
        (Convergence.keyOf g.kind desired g.name) = none := by
      rw [hkey]
      exact habsent
    obtain ⟨after, next, hact, hmade, hnext, -⟩ := Convergence.accepts_create hobject hnone
    rw [hact] at hrest
    obtain ⟨rfl, rfl⟩ := Program.runs_done_iff.1 hrest
    rw [hkey] at hmade hnext
    refine ⟨.attempt aim (fun _ => habsent) hneeded (Or.inr ⟨after, hmade, hnext⟩),
      .rfl, fun _ _ _ => ⟨after, Advances.object?_of_insert hnext, ?_⟩, nofun⟩
    rw [honce]
    nofun

/-- **An object that is created once**: at the end it is there.  It is built by a
    program that writes nothing. -/
theorem leads_ensureOnce (htame : Tame env) (hplan : plan.Sound own) {g : Goal}
    (honce : g.once = true) {build : Pass Json}
    (hbuild : ∀ between, between.cluster = w.cluster →
      Leads env Plan.empty build between fun desired _ => plan g desired) :
    Leads env plan (ensureOnce PassError.store g.kind g.name g.ns build) w fun _ w' =>
      Fair env w.cluster → Settled plan g w'.store := by
  unfold ensureOnce
  refine leads_get ?_ ?_
  · intro e between he _ hcluster
    have hread : stored? (.error e) = .error e := by
      rw [stored?, htame e he]
      rfl
    rw [hread]
    exact leads_fail fun hfair => hfair.quiet e he
  · intro between hobjects hcluster
    have hread : stored? (w.store.get g.kind (StoreKey.of g.kind g.ns g.name))
        = .ok (w.store.object? g.key) := by
      show stored? (w.store.get g.kind g.key) = _
      unfold Store.get
      cases w.store.object? g.key <;> rfl
    rw [hread]
    cases hfound : w.store.object? g.key with
    | some stored =>
      refine leads_done fun _ => ⟨stored, ?_, ?_⟩
      · rw [Store.object?_congr hobjects, hfound]
      · simp [honce]
    | none =>
      intro r w' hrun
      rcases Program.runs_bind_iff.1 hrun with ⟨e, he, rfl⟩ | ⟨desired, built, hdesired, hrest⟩
      · obtain ⟨hadvances, hfair, -, herror⟩ := hbuild between hcluster _ _ he
        exact ⟨.rest hadvances.of_empty.1 hadvances.of_empty.2, hfair, by simp,
          fun _ _ => herror e rfl⟩
      · obtain ⟨hadvances, hfair, hpost, -⟩ := hbuild between hcluster _ _ hdesired
        -- Building writes nothing, so the object is still not there when it is sent.
        have habsent : built.store.object? g.key = none := by
          rw [Store.object?_congr (hadvances.of_empty.1.trans hobjects), hfound]
        obtain ⟨hadvances', hfair', hpost', herror'⟩ :=
          leads_createOnce hplan (hpost desired rfl) honce habsent _ _ hrest
        refine ⟨(Advances.rest hadvances.of_empty.1 hadvances.of_empty.2).trans hadvances',
          hfair'.trans hfair, fun a ha h => ?_, fun e he h => herror' e he (hfair.2 h)⟩
        exact hpost' a ha (hfair.2 (hcluster ▸ h))

end Rules

end Pass

end LoggingOperator
