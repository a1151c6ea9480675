/-
  LoggingOperator.Proofs.Pass.LastCall — THE LAST CALL OF A PASS.

  A pass over a declaration makes one call that can change the declaration,
  and this call is its last: it writes the status (`closing_pass`).  All calls
  before it read, or write objects of other kinds.  What is sent with it is
  the declaration as it was read, with the status that this pass has found
  (`Reports`).

  What a status says is put together from the calls of the pass (`Folds`): the
  health and the shards of a cluster from the answer to the probe, the number
  of shippers from the last read, and all other fields from what is declared.
-/
import LoggingOperator.Proofs.Convergence.Races
import LoggingOperator.Proofs.Pass.Gate
import LoggingOperator.Proofs.Pass.Interrupted

namespace LoggingOperator

open Json
open Convergence (converge ensureOnce)
open Management (Endpoint HealthReport)
open Program

/-! ## §1. What a status says -/

/-- How many nodes of a role a status counts. -/
def ElasticsearchStatus.count? (s : ElasticsearchStatus) : Role → Option Int32
  | .master => s.master
  | .data => s.data
  | .ingestion => s.ingestion
  | .client => s.client

namespace Pass

namespace Elasticsearch

/-- The status of a search cluster, after these calls of a pass. -/
structure Folded (es : LoggingOperator.Elasticsearch) (events : List Event)
    (s : ElasticsearchStatus) : Prop where
  version : s.version = some es.spec.version
  /-- The health is the one that the probe was told. -/
  reported : ∀ endpoint report, .manage endpoint .health (.ok report) ∈ events →
    s.health = .classify report.colour
  unreported : (∀ endpoint report, .manage endpoint .health (.ok report) ∉ events) →
    s.health = .notReady
  /-- Shards are counted if the probe was told a count that fits 32 bits. -/
  shards : ∀ n : Int32, s.activeShards = some n ↔ ∃ endpoint report,
    .manage endpoint .health (.ok report) ∈ events ∧ n.toInt = report.activeShards.toInt
  /-- Nodes are counted for the declared roles, as declared. -/
  counts : ∀ role, s.count? role = (es.spec.nodes? role).map NodeGroup.replicas

theorem count?_eq_some_iff {n : Int64} {m : Int32} : count? n = some m ↔ m.toInt = n.toInt := by
  unfold count?
  constructor
  · intro h
    split at h
    · next hfits =>
      cases h
      exact Int32.toInt_ofInt_of_le (by simpa using hfits.1) (by simpa using hfits.2)
    · cases h
  · intro h
    have hlow := Int32.le_toInt m
    have hhigh := Int32.toInt_lt m
    rw [if_pos ⟨by omega, by omega⟩, ← h, Int32.ofInt_toInt]

theorem Token.not_onHealth {es : LoggingOperator.Elasticsearch} {ns : String}
    {found : Option Endpoint} {health : Health} {events : List Event}
    (h : Token es ns found health events) : ∀ event ∈ events, ¬ event.OnHealth := by
  cases h with
  | waits _ => simp
  | asks _ _ _ asks =>
    cases asks with
    | told _ => simp [Event.OnHealth]
    | asks _ issued kept =>
      simp only [List.forall_mem_cons, List.forall_mem_append]
      refine ⟨id, issued.not_onHealth, ?_⟩
      rcases kept with rfl | ⟨object, answer, rfl, -⟩
      · simp
      · simp [Event.OnHealth]

variable (es : LoggingOperator.Elasticsearch) (report : Report)

theorem status_found : (status es report).version = some es.spec.version
    ∧ (status es report).health = report.health
    ∧ (status es report).activeShards = report.activeShards := by
  -- To count the nodes of a role leaves these fields alone.
  have hcount : ∀ (s : ElasticsearchStatus) (role : Role) (n : Int32),
      (s.withCount role n).version = s.version ∧ (s.withCount role n).health = s.health
        ∧ (s.withCount role n).activeShards = s.activeShards := by
    intro s role n
    cases role <;> exact ⟨rfl, rfl, rfl⟩
  have hfold : ∀ {step : ElasticsearchStatus → Role → ElasticsearchStatus},
      (∀ s role, (step s role).version = s.version ∧ (step s role).health = s.health
        ∧ (step s role).activeShards = s.activeShards) →
      ∀ (roles : List Role) (s : ElasticsearchStatus), (roles.foldl step s).version = s.version
        ∧ (roles.foldl step s).health = s.health
        ∧ (roles.foldl step s).activeShards = s.activeShards := by
    intro step hstep roles
    induction roles with
    | nil => exact fun s => ⟨rfl, rfl, rfl⟩
    | cons role roles ih =>
      intro s
      obtain ⟨hversion, hhealth, hshards⟩ := hstep s role
      obtain ⟨hversion', hhealth', hshards'⟩ := ih (step s role)
      exact ⟨hversion'.trans hversion, hhealth'.trans hhealth, hshards'.trans hshards⟩
  refine hfold (fun s role => ?_) Role.all _
  cases hnodes : es.spec.nodes? role with
  | none => exact ⟨rfl, rfl, rfl⟩
  | some group => exact hcount s role group.replicas

theorem count?_status (role : Role) :
    (status es report).count? role = (es.spec.nodes? role).map NodeGroup.replicas := by
  obtain ⟨metadata, spec, _⟩ := es
  obtain ⟨clusterName, version, security, master, data, ingestion, client, plugins⟩ := spec
  cases role <;> cases data <;> cases ingestion <;> cases client <;> rfl

/-- **The status that a pass writes is the one that it found.** -/
theorem folded_status {found : Option Endpoint} {probe before after : List Event}
    {told : Health × Option Int32} (hprobe : Probes found probe told)
    (hbefore : ∀ event ∈ before, ¬ event.OnHealth) (hafter : ∀ event ∈ after, ¬ event.OnHealth) :
    Folded es (before ++ probe ++ after)
      (status es { health := told.1, activeShards := told.2 }) := by
  obtain ⟨hversion, hhealth, hshards⟩ :=
    status_found es { health := told.1, activeShards := told.2 }
  -- The cluster is asked by the probe alone.
  have hmem : ∀ endpoint report,
      (Event.manage endpoint .health (.ok report) ∈ before ++ probe ++ after
        ↔ Event.manage endpoint .health (.ok report) ∈ probe) := by
    intro endpoint report
    rw [List.mem_append, List.mem_append]
    constructor
    · rintro ((h | h) | h)
      · exact (hbefore _ h trivial).elim
      · exact h
      · exact (hafter _ h trivial).elim
    · exact fun h => Or.inl (Or.inr h)
  refine ⟨hversion, fun endpoint report h => ?_, fun h => ?_, fun n => ?_, count?_status es _⟩
  · rw [hmem] at h
    cases hprobe with
    | reported =>
      cases List.mem_singleton.1 h
      exact hhealth
    | _ => simp at h
  · simp only [hmem] at h
    cases hprobe with
    | reported => exact absurd (List.mem_singleton.2 rfl) (h _ _)
    | _ => exact hhealth
  · rw [hshards]
    simp only [hmem]
    cases hprobe with
    | @reported endpoint report =>
      rw [show (ofReport report).2 = count? report.activeShards from rfl, count?_eq_some_iff]
      constructor
      · exact fun h => ⟨endpoint, report, List.mem_singleton.2 rfl, h⟩
      · rintro ⟨_, _, h, hn⟩
        cases List.mem_singleton.1 h
        exact hn
    | _ => simp

end Elasticsearch

/-- What a status says of a declaration, after these calls of a pass over it. -/
def Folds : Declared → List Event → Json → Prop
  | .elasticsearch es, events, status =>
    ∃ s : ElasticsearchStatus, status = s.toJson ∧ Elasticsearch.Folded es events s
  | .kibana kb, _, status =>
    status = KibanaStatus.toJson ⟨some kb.spec.replicas, some kb.spec.cluster.version⟩
  | .fluentd fd, events, status => ∃ stored,
    events.getLast? = some (.store (.get .daemonSet fd.id fd.metadata.ns) (.ok stored))
      ∧ status = FluentdStatus.toJson ⟨(stored.at? ["status", "desiredNumberScheduled"]).bind
        Json.Record.int32?⟩
  | _, _, _ => False

/-! ## §2. The last call of a pass -/

/-- An object that is sent for the declaration with this metadata, with this
    status. -/
structure Sends (m : Metadata) (status object : Json) : Prop where
  named : object.metaString? "name" = m.name
  placed : object.namespace? = m.ns
  carries : object.version? = m.resourceVersion
  status : object.get? "status" = some status

theorem sends_sent {Spec Status : Type} {dk : DeclaredKind} {writeSpec : Spec → Json}
    {write : Status → Json} (d : Declaration Spec Status) (status : Json) :
    Sends d.metadata status ((Declaration.toJson dk writeSpec write d).set "status" status) where
  named := by
    rw [metaString?_sent, Metadata.get?_name]
    cases d.metadata.name <;> rfl
  placed := by
    rw [namespace?, metaString?_sent, Metadata.get?_namespace]
    cases d.metadata.ns <;> rfl
  carries := resourceVersion_sent d status
  status := status_sent d status

/-- What is sent after these calls of a pass says what the pass has found. -/
def Reports (d : Declared) (before : List Event) (object : Json) : Prop :=
  ∃ status, Folds d before status ∧ Sends d.metadata status object

variable {kind : Kind} {Q : List Event → Json → Prop} {α : Type}

/-- Whatever its calls are answered, the part of a pass writes no object of this
    kind, unless it comes to its last call: that is a status write, and `Q`
    holds of the calls before it and of what is sent. -/
def Closing (kind : Kind) (Q : List Event → Json → Prop) (p : Pass Bool) : Prop :=
  ∀ events r, Traces p events r →
    ((∀ event ∈ events, event.Beside kind) ∧ ∃ e, r = .error e)
      ∨ ∃ before object answer, events = before ++ [.store (.replaceStatus kind object) answer]
        ∧ (∀ event ∈ before, event.Beside kind) ∧ Q before object ∧ r = conflictOf answer

theorem Closing.bind {p : Pass α} {f : α → Pass Bool} (hp : Keeps (Event.Beside kind) p)
    (hf : ∀ a, Closing kind Q (f a))
    (hQ : ∀ earlier before object, Q before object → Q (earlier ++ before) object) :
    Closing kind Q (p.bind f) := by
  intro events r h
  rcases traces_bind_iff.1 h with ⟨e, hfails, rfl⟩ | ⟨a, first, rest, rfl, hfirst, hrest⟩
  · exact Or.inl ⟨(hp.traces hfails).1, e, rfl⟩
  · have hbeside := (hp.traces hfirst).1
    rcases hf a rest r hrest with ⟨hlater, he⟩ | ⟨before, object, answer, rfl, hbefore, hQ', hr⟩
    · exact Or.inl ⟨List.forall_mem_append.2 ⟨hbeside, hlater⟩, he⟩
    · exact Or.inr ⟨first ++ before, object, answer, (List.append_assoc ..).symm,
        List.forall_mem_append.2 ⟨hbeside, hbefore⟩, hQ first before object hQ', hr⟩

theorem closing_writeStatus {declared status : Json} (h : Q [] (declared.set "status" status)) :
    Closing kind Q (writeStatus kind declared status) := by
  intro events r htraces
  obtain ⟨answer, rfl, hr⟩ := traces_writeStatus_iff.1 htraces
  exact Or.inr ⟨[], _, answer, rfl, fun _ hmem => (List.not_mem_nil hmem).elim, h, hr⟩

theorem keeps_converge_beside {kind' : Kind} (h : kind' ≠ kind) (desired : Json) :
    Keeps (Event.Beside kind) (ofStore (converge kind' desired)) :=
  Keeps.mapError (Convergence.does_converge fun _ _ hcall => Or.inr (hcall ▸ h)) _

theorem keeps_ensureOnce_beside {kind' : Kind} (h : kind' ≠ kind) (name : String)
    (ns : Option String) (built : Except BuildError Json) :
    Keeps (Event.Beside kind) (ensureOnce PassError.store kind' name ns (ofBuild built)) :=
  Convergence.does_ensureOnce (fun _ => Or.inl rfl) (keeps_ofBuild _) fun _ _ _ _ _ => Or.inr h

theorem closing_kibana (kb : LoggingOperator.Kibana) (generated : String) :
    Closing .kibana (Reports (.kibana kb)) ((Declared.kibana kb).pass generated) := by
  have hQ : ∀ earlier before object, Reports (.kibana kb) before object →
      Reports (.kibana kb) (earlier ++ before) object := fun _ _ _ h => h
  simp only [Declared.pass, Kibana.run, bind_eq, pure_eq, Program.bind_assoc, done_bind]
  refine .bind (keeps_namespaceOf _ _) (fun _ => ?_) hQ
  refine .bind (keeps_ofBuild _) (fun deployment => ?_) hQ
  refine .bind (keeps_converge_beside (by decide) _) (fun first => ?_) hQ
  refine .bind (keeps_ofBuild _) (fun service => ?_) hQ
  refine .bind (keeps_converge_beside (by decide) _) (fun second => ?_) hQ
  rw [bind_done]
  exact closing_writeStatus ⟨_, rfl, sends_sent kb _⟩

theorem closing_fluentd (fd : LoggingOperator.Fluentd) (generated : String) :
    Closing .fluentd (Reports (.fluentd fd)) ((Declared.fluentd fd).pass generated) := by
  -- The calls before the last read do not matter to the status.
  have hQ : ∀ earlier before object, Reports (.fluentd fd) before object →
      Reports (.fluentd fd) (earlier ++ before) object := by
    rintro earlier before object ⟨status, ⟨stored, hlast, hstatus⟩, hobject⟩
    refine ⟨status, ⟨stored, ?_, hstatus⟩, hobject⟩
    rw [List.getLast?_append, hlast]
    rfl
  simp only [Declared.pass, Fluentd.run, bind_eq, pure_eq, Program.bind_assoc, done_bind, bind_done]
  cases hns : fd.metadata.ns with
  | none =>
    have hnamespace : ∃ e, namespaceOf .fluentd fd.metadata = .fail e := by
      rw [namespaceOf, hns]
      exact ⟨_, rfl⟩
    obtain ⟨e, hnamespace⟩ := hnamespace
    rw [hnamespace, fail_bind]
    intro events r htraces
    obtain ⟨rfl, hr⟩ := traces_fail_iff.1 htraces
    exact Or.inl ⟨fun _ hmem => (List.not_mem_nil hmem).elim, e, hr⟩
  | some ns =>
    have hnamespace : namespaceOf .fluentd fd.metadata = .done ns := by
      rw [namespaceOf, hns]
    rw [hnamespace, done_bind]
    refine .bind (keeps_ofBuild _) (fun config => ?_) hQ
    refine .bind (keeps_converge_beside (by decide) _) (fun first => ?_) hQ
    refine .bind (keeps_ofBuild _) (fun account => ?_) hQ
    refine .bind (keeps_converge_beside (by decide) _) (fun second => ?_) hQ
    refine .bind (keeps_ofBuild _) (fun rights => ?_) hQ
    refine .bind (keeps_ensureOnce_beside (by decide) _ _ _) (fun third => ?_) hQ
    refine .bind (keeps_ensureOnce_beside (by decide) _ _ _) (fun fourth => ?_) hQ
    refine .bind (keeps_ofBuild _) (fun workload => ?_) hQ
    refine .bind (keeps_converge_beside (by decide) _) (fun fifth => ?_) hQ
    -- The DaemonSet is read, and then the status is written.
    intro events r htraces
    obtain ⟨answer, rest, rfl, hrest⟩ := traces_store_iff.1 htraces
    cases answer with
    | error e =>
      obtain ⟨rfl, hr⟩ := traces_fail_iff.1 hrest
      exact Or.inl ⟨List.forall_mem_singleton.2 (Or.inl rfl), _, hr⟩
    | ok stored =>
      obtain ⟨answer, rfl, hr⟩ := traces_writeStatus_iff.1 hrest
      refine Or.inr ⟨[.store (.get .daemonSet fd.id (some ns)) (.ok stored)], _, answer, rfl,
        List.forall_mem_singleton.2 (Or.inl rfl), ⟨_, ⟨stored, ?_, rfl⟩, sends_sent fd _⟩, hr⟩
      rw [hns]
      rfl

theorem closing_elasticsearch (es : LoggingOperator.Elasticsearch) (generated : String) :
    Closing .elasticsearch (Reports (.elasticsearch es))
      ((Declared.elasticsearch es).pass generated) := by
  intro events r htraces
  -- The answer of the pass is what its report says of the status write.
  obtain ⟨r', htraces', rfl⟩ : ∃ r', Traces (Elasticsearch.run es generated) events r'
      ∧ r = r'.map Elasticsearch.Report.statusConflict := by
    rcases traces_bind_iff.1 htraces with ⟨e, hrun, rfl⟩ | ⟨report, before, after, rfl, hrun, hdone⟩
    · exact ⟨_, hrun, rfl⟩
    · obtain ⟨rfl, rfl⟩ := traces_done_iff.1 hdone
      rw [List.append_nil]
      exact ⟨_, hrun, rfl⟩
  cases hns : es.metadata.ns with
  | none =>
    have hrun : ∃ e, Elasticsearch.run es generated = .fail e := by
      rw [Elasticsearch.run, namespaceOf, hns]
      exact ⟨_, rfl⟩
    obtain ⟨e, hrun⟩ := hrun
    rw [hrun] at htraces'
    obtain ⟨rfl, rfl⟩ := traces_fail_iff.1 htraces'
    exact Or.inl ⟨fun _ hmem => (List.not_mem_nil hmem).elim, e, rfl⟩
  | some ns =>
    rcases Elasticsearch.traces_run hns htraces' with ⟨hsetup, e, rfl⟩ |
      ⟨before, probe, token, last, found, told, rfl, hbefore, hprobe, htoken, hlast⟩
    · exact Or.inl ⟨fun event hevent => (hsetup event hevent).beside, e, rfl⟩
    have hbeside : ∀ event ∈ before ++ probe ++ token, event.Beside .elasticsearch := by
      simp only [List.forall_mem_append]
      exact ⟨⟨fun event hevent => (hbefore event hevent).beside, hprobe.beside _⟩, htoken.beside⟩
    rcases hlast with ⟨rfl, e, rfl⟩ | ⟨answer, rfl, hr⟩
    · rw [List.append_nil]
      exact Or.inl ⟨hbeside, e, rfl⟩
    · have hfolded := Elasticsearch.folded_status es hprobe
        (fun event hevent => (hbefore event hevent).not_onHealth) htoken.not_onHealth
      exact Or.inr ⟨_, _, answer, rfl, hbeside, ⟨_, ⟨_, rfl, hfolded⟩, sends_sent es _⟩, hr⟩

/-- **A pass writes its declaration at most once**: its last call gives it the
    status that the pass found. -/
theorem closing_pass {d : Declared} (hkind : d.kind.storedAs? = some kind) (generated : String) :
    Closing kind (Reports d) (d.pass generated) := by
  cases d with
  | elasticsearch es =>
    cases hkind
    exact closing_elasticsearch es generated
  | kibana kb =>
    cases hkind
    exact closing_kibana kb generated
  | fluentd fd =>
    cases hkind
    exact closing_fluentd fd generated
  | _ => cases hkind

/-- Nothing is generated for a declaration without a name. -/
theorem ofMetadata_of_unnamed {m : Metadata} (hname : m.name = none) (dk : DeclaredKind) :
    ∃ e, Owner.ofMetadata dk m = .error e := by
  unfold Owner.ofMetadata
  rw [hname]
  cases m.ns <;> exact ⟨_, rfl⟩

/-- **A pass over a declaration without a name** fails before the status write. -/
theorem traces_pass_unnamed {d : Declared} (hkind : d.kind.storedAs? = some kind)
    (hname : d.metadata.name = none) {generated : String} {events : List Event}
    {r : Except PassError Bool} (h : Traces (d.pass generated) events r) : ∃ e, r = .error e := by
  have hfails : ∀ {α : Type} {p : Pass α} {e : PassError},
      Traces (p.bind fun _ => (.fail e : Pass Bool)) events r → ∃ e, r = .error e := by
    intro α p e h
    rcases traces_bind_iff.1 h with ⟨e', -, rfl⟩ | ⟨_, _, _, -, -, hlast⟩
    · exact ⟨e', rfl⟩
    · exact ⟨e, (traces_fail_iff.1 hlast).2⟩
  -- What is built first cannot be built.
  cases d with
  | elasticsearch es =>
    have hname : es.metadata.name = none := hname
    obtain ⟨e, hunowned⟩ := ofMetadata_of_unnamed hname .elasticsearch
    cases hns : es.metadata.ns with
    | none =>
      rw [Declared.pass, Elasticsearch.run, namespaceOf, hns] at h
      exact ⟨_, (traces_fail_iff.1 h).2⟩
    | some ns =>
      have hroles : ∀ p : Elasticsearch.Progress, Elasticsearch.takeSteps es ns generated
          (es.spec.roles.map .roleReady) p = .fail (.build e) :=
        Elasticsearch.takeSteps_roles_unowned hunowned
      simp only [Declared.pass, Elasticsearch.run_eq_phases hns, Elasticsearch.setUpSteps,
        Elasticsearch.takeSteps_append, hroles, Program.bind_assoc, fail_bind] at h
      exact hfails h
  | kibana kb =>
    have hname : kb.metadata.name = none := hname
    obtain ⟨e, hunowned⟩ := ofMetadata_of_unnamed hname .kibana
    have hbuilt : ofBuild (Manifest.Kibana.deployment kb) = .fail (.build e) := by
      rw [Manifest.Kibana.deployment, hunowned]
      rfl
    simp only [Declared.pass, Kibana.run, bind_eq, pure_eq, Program.bind_assoc, hbuilt,
      fail_bind] at h
    exact hfails h
  | fluentd fd =>
    have hname : fd.metadata.name = none := hname
    obtain ⟨e, hunowned⟩ := ofMetadata_of_unnamed hname .fluentd
    have hbuilt : ofBuild (Manifest.Fluentd.configMap fd) = .fail (.build e) := by
      rw [Manifest.Fluentd.configMap, hunowned]
      rfl
    simp only [Declared.pass, Fluentd.run, bind_eq, pure_eq, Program.bind_assoc, hbuilt,
      fail_bind] at h
    exact hfails h
  | _ => cases hkind

/-- A declaration whose status is written has a name. -/
theorem named_of_traces {d : Declared} (hkind : d.kind.storedAs? = some kind)
    {generated : String} {before : List Event} {object : Json} {answer : Except StoreError Json}
    {r : Except PassError Bool}
    (h : Traces (d.pass generated) (before ++ [.store (.replaceStatus kind object) answer]) r) :
    d.metadata.name.isSome = true := by
  cases hname : d.metadata.name with
  | some name => rfl
  | none =>
    -- The status write might have been answered well, but the pass does not end well.
    obtain ⟨later, r', hother⟩ := h.reanswer (.ok .null)
    obtain ⟨e, rfl⟩ := traces_pass_unnamed hkind hname hother
    have hwrites : ¬ Event.Beside kind (.store (.replaceStatus kind object) (.ok .null)) := by
      rintro (hget | hother)
      · cases hget
      · exact hother rfl
    rcases closing_pass hkind generated _ _ hother with
      ⟨hbeside, -⟩ | ⟨before', object', answer', heq, hbefore, -, hr⟩
    · exact (hwrites (hbeside _ (by simp))).elim
    · rcases List.eq_nil_or_concat later with rfl | ⟨later, last, rfl⟩
      · obtain ⟨-, hlast⟩ := List.append_inj' heq rfl
        cases hlast
        cases hr
      · rw [List.concat_eq_append, ← List.cons_append, ← List.append_assoc] at heq
        obtain ⟨rfl, -⟩ := List.append_inj' heq rfl
        exact (hwrites (hbefore _ (by simp))).elim

end Pass

end LoggingOperator
