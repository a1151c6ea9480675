/-
  LoggingOperator.Proofs.Pass.Isolation — THE MANAGEMENT API CANNOT STOP A PASS.

  Two passes over one declaration that start from the same store, and that are
  told different things by the management API, write the same objects in the
  same way.  What they were told shows in two places alone: in the secret of the
  token, which is created or not, and in the status.

  A declaration that generates nothing, because its identity is not complete, is
  refused: the pass looks at most for secrets that may be there already.
-/
import LoggingOperator.Proofs.Pass.Order
import LoggingOperator.Proofs.Program.Writes

namespace LoggingOperator

open Convergence (Outcome)
open Program

/-! ## §1. Writes -/

/-- A call that looks for an object. -/
def Event.Looks : Event → Prop
  | .store call _ => call.op = .get
  | _ => False

namespace Pass.Elasticsearch

variable {es : LoggingOperator.Elasticsearch} {ns : String}

/-! ## §2. What the management API is told by -/

/-- The writes of a token phase: none, or the secret of the token. -/
inductive TokenWrites (es : LoggingOperator.Elasticsearch) (ns : String) : List StoreCall → Prop
  | none : TokenWrites es ns []
  | created {object : Json} (named : object.name = .ok (Naming.tokenSecret es.id))
    (placed : object.namespace? = some ns) : TokenWrites es ns [.create .secret object]

theorem Reads.writeCalls {events : List Event} (h : Reads es ns events) :
    writeCalls events = [] := by
  unfold Reads at h
  split at h
  · rw [h]
    rfl
  · obtain ⟨answer, rfl⟩ := h
    rfl

theorem Probes.writeCalls {found : Option Management.Endpoint} {events : List Event}
    {told : Health × Option Int32} (h : Probes found events told) : writeCalls events = [] := by
  cases h <;> rfl

theorem Issues.writeCalls {endpoint : Management.Endpoint} {token : Management.TokenId}
    {events : List Event} {r : Except PassError Management.ServiceToken}
    (h : Issues endpoint token events r) : writeCalls events = [] := by
  cases h <;> rfl

theorem Token.writeCalls {found : Option Management.Endpoint} {health : Health}
    {events : List Event} (h : Token es ns found health events) :
    TokenWrites es ns (writeCalls events) := by
  cases h with
  | waits _ => exact .none
  | asks _ _ _ asks =>
    cases asks with
    | told _ => exact .none
    | @asks e issues created r missing issued kept =>
      have hissues : Program.writeCalls (issues ++ created) = Program.writeCalls created := by
        rw [writeCalls_append, issued.writeCalls, List.nil_append]
      show TokenWrites es ns (Program.writeCalls (issues ++ created))
      rw [hissues]
      rcases kept with rfl | ⟨object, answer, rfl, named, placed⟩
      · exact .none
      · exact .created named placed

/-- A pass that ends well and whose last call is the status write.  Before it,
    it writes these objects, and then the secret of the token or nothing. -/
def WritesThen (es : LoggingOperator.Elasticsearch) (ns : String) (objects : List StoreCall)
    (c : Course PassError Report) : Prop :=
  ∃ report tokens told answer, c.result = .ok report
    ∧ c.events.getLast? = some (lastCall es told answer)
    ∧ writeCalls c.events = objects ++ tokens ++ writeCalls [lastCall es told answer]
    ∧ TokenWrites es ns tokens

/-- **What a pass writes does not depend on the management API**, but for the
    secret of the token and the content of the status. -/
theorem writes_alike {owner : Owner}
    (howner : Owner.ofMetadata .elasticsearch es.metadata = .ok owner) (generated : String)
    {s : Store}
    (hheld : (s.object? (StoreKey.of .elasticsearch (some owner.ns) owner.name)).isSome = true) :
    ∃ objects, ∀ σ : Script, σ.Quiet →
      WritesThen es owner.ns objects ((run es generated).course σ s) := by
  obtain ⟨setup, reading, found, hcourse⟩ := course_run generated howner hheld
  refine ⟨writeCalls setup, fun σ hσ => ?_⟩
  obtain ⟨phases, report, rfl, -, hinOrder, hevents, hresult, -⟩ := hcourse σ hσ
  refine ⟨report, writeCalls phases.token, phases.told, phases.written, hresult, ?_, ?_,
    hinOrder.token.writeCalls⟩
  · rw [hevents, Phases.events, List.getLast?_concat]
  · rw [hevents, Phases.events]
    simp only [writeCalls_append, hinOrder.reading.writeCalls, hinOrder.probe.writeCalls,
      List.append_nil]

/-! ## §3. A declaration without an identity -/

/-- Where no call fails, the part of a pass only looks for objects, and ends like
    this. -/
def LooksFor {α : Type} (ends : Except PassError α → Prop) (p : Pass α) : Prop :=
  ∀ σ : Script, σ.Quiet → ∀ s, (∀ event ∈ (p.course σ s).events, event.Looks)
    ∧ ends (p.course σ s).result

/-- It ends well, or with this error. -/
def OrFails {α : Type} (e : PassError) (r : Except PassError α) : Prop :=
  (∃ a, r = .ok a) ∨ r = .error e

theorem LooksFor.bind {α β : Type} {e : PassError} {ends : Except PassError β → Prop} {p : Pass α}
    {f : α → Pass β} (hp : LooksFor (OrFails e) p) (hf : ∀ a, LooksFor ends (f a))
    (hfails : ends (.error e)) : LooksFor ends (p.bind f) := by
  intro σ hσ s
  obtain ⟨hevents, hends⟩ := hp σ hσ s
  rw [course_bind]
  generalize p.course σ s = c at hevents hends
  obtain ⟨events, r, t⟩ := c
  rcases hends with ⟨a, rfl⟩ | rfl
  · obtain ⟨hlater, hends⟩ := hf a _ (hσ.later events.length) t
    exact ⟨List.forall_mem_append.2 ⟨hevents, hlater⟩, hends⟩
  · exact ⟨hevents, hfails⟩

theorem looksFor_done {α : Type} {e : PassError} (a : α) :
    LooksFor (OrFails e) (.done a : Pass α) :=
  fun _ _ _ => ⟨List.forall_mem_nil _, Or.inl ⟨a, rfl⟩⟩

theorem looksFor_fail {α : Type} (e : PassError) :
    LooksFor (· = .error e) (.fail e : Pass α) :=
  fun _ _ _ => ⟨List.forall_mem_nil _, rfl⟩

section Unowned

variable {e : BuildError} (hunowned : Owner.ofMetadata .elasticsearch es.metadata = .error e)
  (ns generated : String)
include hunowned

omit hunowned in
/-- A secret that cannot be generated is looked for. -/
theorem looksFor_ensureSecret {built : Except BuildError Secret} (h : built = .error e)
    (name : String) :
    LooksFor (OrFails (.build e)) (ensureSecret name ns (ofBuild (built.map Secret.toJson))) := by
  intro σ hσ s
  subst h
  rw [ensureSecret, Convergence.ensureOnce, course_read ⟨.secret, some ns, name, true⟩ hσ, Store.get]
  cases s.object? _ with
  | some stored => exact ⟨List.forall_mem_singleton.2 rfl, Or.inl ⟨_, rfl⟩⟩
  | none => exact ⟨List.forall_mem_singleton.2 rfl, Or.inr rfl⟩

theorem looksFor_setUpSecurity (tls password : Bool) :
    LooksFor (OrFails (.build e)) (setUpSecurity es ns generated tls password) := by
  have hpassword : Manifest.Elasticsearch.passwordSecret es generated = .error e := by
    rw [Manifest.Elasticsearch.passwordSecret, hunowned]
    rfl
  have hcertificate : Manifest.Elasticsearch.certificateSecret es = .error e := by
    rw [Manifest.Elasticsearch.certificateSecret, hunowned]
    rfl
  exact setUpSecurity_induction looksFor_done
    (fun hf => (looksFor_ensureSecret ns hpassword _).bind hf (Or.inr rfl))
    (fun hf => (looksFor_ensureSecret ns hcertificate _).bind hf (Or.inr rfl)) tls password

/-- **A pass over a declaration without an identity gives up at the first role**,
    if not before. -/
theorem looksFor_setUp (p : Progress) :
    LooksFor (· = .error (.build e)) (takeSteps es ns generated (setUpSteps es) p) := by
  have hsecurity : LooksFor (OrFails (.build e))
      (takeSteps es ns generated es.spec.securitySteps p) :=
    securitySteps_induction looksFor_done (fun tls password _ hf =>
      (looksFor_setUpSecurity hunowned ns generated tls password).bind hf (Or.inr rfl)) p
  rw [setUpSteps, takeSteps_append]
  refine hsecurity.bind (fun p => ?_) rfl
  rw [takeSteps_roles_unowned hunowned]
  exact looksFor_fail _

end Unowned

/-- The identity of a declaration is not complete. -/
def Nameless (m : Metadata) : Prop :=
  m.ns = none ∨ m.name = none ∨ m.uid = none

/-- The pass ends with an error that says so, without a write and without a call to
    the management API. -/
def Refused (c : Course PassError Report) : Prop :=
  (∀ event ∈ c.events, event.Looks)
    ∧ ((∃ declaration, c.result = .error (.missingNamespace declaration))
      ∨ ∃ kind field, c.result = .error (.build (.missingIdentity kind field)))

theorem refused_of_nameless (hnameless : Nameless es.metadata) (generated : String)
    {σ : Script} (hσ : σ.Quiet) (s : Store) : Refused ((run es generated).course σ s) := by
  cases hns : es.metadata.ns with
  | none =>
    have hrun : ∃ declaration, run es generated = .fail (.missingNamespace declaration) := by
      rw [run, namespaceOf, hns]
      exact ⟨_, rfl⟩
    obtain ⟨declaration, hrun⟩ := hrun
    rw [hrun]
    exact ⟨List.forall_mem_nil _, Or.inl ⟨_, rfl⟩⟩
  | some ns =>
    have hunowned : Owner.ofMetadata .elasticsearch es.metadata
        = .error (.missingIdentity DeclaredKind.elasticsearch.name "uid") := by
      unfold Owner.ofMetadata
      rw [hns]
      rcases hnameless with h | h | h
      · cases hns.symm.trans h
      · rw [h]
      · rw [h]
        cases es.metadata.name <;> rfl
    obtain ⟨hevents, hresult⟩ := looksFor_setUp hunowned ns generated {} σ hσ s
    rw [run_eq_phases hns, course_bind_of_error (by rw [← hresult])]
    exact ⟨hevents, Or.inr ⟨_, _, rfl⟩⟩

/-! ## §4. Isolation -/

/-- **Isolation from the management API.**  From one store that holds the
    declaration, any two behaviours of the management API lead to the same
    writes, but for the secret of the token and the content of the status, and
    both passes end well.  A declaration without an identity is refused. -/
theorem isolated_from_management (es : LoggingOperator.Elasticsearch) (generated : String)
    {σ τ : Script} (hσ : σ.Quiet) (hτ : τ.Quiet) (s : Store) :
    (∀ ns name uid, es.metadata.ns = some ns → es.metadata.name = some name →
        es.metadata.uid = some uid →
        (s.object? (StoreKey.of .elasticsearch (some ns) name)).isSome = true →
        ∃ objects, WritesThen es ns objects ((run es generated).course σ s)
          ∧ WritesThen es ns objects ((run es generated).course τ s))
      ∧ (Nameless es.metadata → Refused ((run es generated).course σ s)) := by
  refine ⟨fun ns name uid hns hname huid hheld => ?_,
    fun hnameless => refused_of_nameless hnameless generated hσ s⟩
  obtain ⟨owner, howner, rfl, rfl⟩ := Owner.ofMetadata_eq_ok hns hname huid
  obtain ⟨objects, hwrites⟩ := writes_alike howner generated hheld
  exact ⟨objects, hwrites σ hσ, hwrites τ hτ⟩

/-- The management API answers as a cluster in this state does. -/
def answering (c : Management.Cluster) : Script where
  fault _ := none
  answer _ endpoint call := (c.answer endpoint call).1

/-- A stored cluster whose management API is down or at work, and one without a
    name. -/
theorem isolated_from_management_dashboarded :
    (∃ objects,
        WritesThen dashboarded "ns" objects
            ((run dashboarded "").course Script.refusing dashboardedWorld.store)
          ∧ WritesThen dashboarded "ns" objects
            ((run dashboarded "").course (answering dashboardedWorld.cluster)
              dashboardedWorld.store))
      ∧ Refused ((run { dashboarded with metadata := { ns := some "ns" } } "").course
        Script.refusing dashboardedWorld.store) :=
  have hquiet : (answering dashboardedWorld.cluster).Quiet := fun _ => rfl
  ⟨(isolated_from_management dashboarded "" Script.quiet_refusing hquiet
      dashboardedWorld.store).1 "ns" "logs" "7f3a" rfl rfl rfl (by decide),
    (isolated_from_management { dashboarded with metadata := { ns := some "ns" } } ""
      Script.quiet_refusing hquiet dashboardedWorld.store).2 (Or.inr (Or.inl rfl))⟩

end Pass.Elasticsearch

end LoggingOperator
