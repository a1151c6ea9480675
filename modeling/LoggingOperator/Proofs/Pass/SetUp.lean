/-
  LoggingOperator.Proofs.Pass.SetUp — SETTING UP, OBJECT BY OBJECT.

  What a pass over a search cluster does before it looks for the cluster is to
  bring one object after the other to what is declared (`bring`).  The steps of
  the pass and their report put together are just that (`setUp_eq_bringAll`),
  so whatever is asked about setting up is asked about one object:

    * it is written at most once, and nothing else is (`writes_setUp`);
    * where no call fails, it needs no further write (`settled_setUp`).
-/
import LoggingOperator.Proofs.Manifest.Apart
import LoggingOperator.Proofs.Pass.Interrupted
import LoggingOperator.Proofs.Pass.Isolation

namespace LoggingOperator

open Convergence (converge ensureOnce createOnce Outcome withLastApplied)
open Program

namespace Pass.Elasticsearch

open Manifest.Elasticsearch

variable {es : LoggingOperator.Elasticsearch} {owner : Owner} {generated : String}

/-! ## §1. Bringing objects to what is declared -/

/-- What is wanted of an object.  The value of a password or of a token is given. -/
def wanted (es : LoggingOperator.Elasticsearch) (generated : String) :
    Part → Except BuildError Json
  | .password => (passwordSecret es generated).map Secret.toJson
  | .certificate => (certificateSecret es).map Secret.toJson
  | .token => (tokenSecret es generated).map Secret.toJson
  | .workload role => (statefulSet es role).map StatefulSet.toJson
  | .routable role => (services es role).map fun built => built.1.toJson
  | .headless role => (services es role).map fun built => built.2.toJson

/-- Bring one object to what is declared. -/
def bring (es : LoggingOperator.Elasticsearch) (owner : Owner) (generated : String) (part : Part) :
    Pass Outcome :=
  let goal := part.goal owner
  let build : Pass Json := ofBuild (wanted es generated part)
  if goal.once then ensureOnce .store goal.kind goal.name goal.ns build
  else build.bind fun desired => ofStore (converge goal.kind desired)

/-- Bring one object after the other to what is declared. -/
def bringAll (es : LoggingOperator.Elasticsearch) (owner : Owner) (generated : String) :
    List Part → Pass Unit
  | [] => .done ()
  | part :: rest => (bring es owner generated part).bind fun _ => bringAll es owner generated rest

theorem bringAll_append (parts parts' : List Part) :
    bringAll es owner generated (parts ++ parts')
      = (bringAll es owner generated parts).bind fun _ => bringAll es owner generated parts' := by
  induction parts with
  | nil => rfl
  | cons part rest ih => simp only [List.cons_append, bringAll, ih, Program.bind_assoc]

/-- A part of a pass without its result. -/
def quietly {α : Type} (p : Pass α) : Pass Unit :=
  p.bind fun _ => .done ()

theorem bind_const {α β : Type} (p : Pass α) (q : Pass β) :
    (p.bind fun _ => q) = (quietly p).bind fun _ => q := by
  simp only [quietly, Program.bind_assoc, done_bind]

section Owned

variable (howner : Owner.ofMetadata .elasticsearch es.metadata = .ok owner)
include howner

theorem setUpSecurity_eq_bringAll (tls password : Bool) :
    quietly (setUpSecurity es owner.ns generated tls password)
      = bringAll es owner generated (secretParts password tls) := by
  have hpassword : ensureSecret (Naming.passwordSecret es.id) owner.ns
      (ofBuild ((passwordSecret es generated).map Secret.toJson))
      = bring es owner generated .password := by
    rw [id_eq howner]
    rfl
  have hcertificate : ensureSecret (Naming.certificateSecret es.id) owner.ns
      (ofBuild ((certificateSecret es).map Secret.toJson))
      = bring es owner generated .certificate := by
    rw [id_eq howner]
    rfl
  simp only [quietly, setUpSecurity, hpassword, hcertificate]
  cases password <;> cases tls <;>
    simp [secretParts, bringAll, bind_eq, pure_eq, Program.bind_assoc]

theorem setUpRole_eq_bringAll {role : Role} (hrole : (es.spec.nodes? role).isSome = true) :
    quietly (setUpRole es role) = bringAll es owner generated (roleParts role) := by
  obtain ⟨workload, hworkload, -⟩ := statefulSet_eq_ok howner hrole
  obtain ⟨routable, headless, hservices, -⟩ := services_eq_ok howner role
  have hbring : ∀ (part : Part) (desired : Json), (part.goal owner).once = false →
      wanted es generated part = .ok desired →
      bring es owner generated part = ofStore (converge (part.goal owner).kind desired) := by
    intro part desired honce hwanted
    simp only [bring, honce, hwanted, ofBuild, Program.ofExcept, done_bind, Bool.false_eq_true,
      if_false]
  rw [roleParts, bringAll, bringAll, bringAll, bringAll,
    hbring (.workload role) workload.toJson rfl (by rw [wanted, hworkload]; rfl),
    hbring (.routable role) routable.toJson rfl (by rw [wanted, hservices]; rfl),
    hbring (.headless role) headless.toJson rfl (by rw [wanted, hservices]; rfl)]
  simp only [quietly, setUpRole, bind_eq, pure_eq, hworkload, hservices, ofBuild, Program.ofExcept,
    done_bind, Program.bind_assoc, Part.kind_goal, Part.kind]

theorem securitySteps_eq_bringAll (p : Progress) :
    quietly (takeSteps es owner.ns generated es.spec.securitySteps p)
      = bringAll es owner generated
        (secretParts (es.spec.security.any Security.needsPassword) es.spec.tls) := by
  unfold ElasticsearchSpec.securitySteps ElasticsearchSpec.tls
  cases es.spec.security with
  | none => rfl
  | some security =>
    dsimp only [Option.any_some]
    rw [← setUpSecurity_eq_bringAll howner]
    split
    · simp only [quietly, takeSteps, takeStep, bind_eq, pure_eq, Program.bind_assoc, done_bind]
    · next hflags =>
      rw [Bool.or_eq_true, not_or, Bool.not_eq_true, Bool.not_eq_true] at hflags
      rw [hflags.1, hflags.2]
      rfl

theorem roleSteps_eq_bringAll {roles : List Role}
    (hroles : ∀ role ∈ roles, (es.spec.nodes? role).isSome = true) (p : Progress) :
    quietly (takeSteps es owner.ns generated (roles.map .roleReady) p)
      = bringAll es owner generated (roles.flatMap roleParts) := by
  induction roles generalizing p with
  | nil => rfl
  | cons role roles ih =>
    obtain ⟨hrole, hroles⟩ := List.forall_mem_cons.1 hroles
    have hrest : ∀ p : Progress,
        ((takeSteps es owner.ns generated (roles.map .roleReady) p).bind fun _ => .done ())
          = bringAll es owner generated (roles.flatMap roleParts) := ih hroles
    simp only [quietly, List.map_cons, takeSteps, takeStep, bind_eq, pure_eq, Program.bind_assoc,
      done_bind, hrest]
    rw [bind_const, setUpRole_eq_bringAll howner hrole, List.flatMap_cons, bringAll_append]

/-- **To set up is to bring one object after the other to what is declared.** -/
theorem setUp_eq_bringAll (p : Progress) :
    quietly (takeSteps es owner.ns generated (setUpSteps es) p)
      = bringAll es owner generated (setUpParts es) := by
  have hroles : ∀ p : Progress,
      ((takeSteps es owner.ns generated (es.spec.roles.map .roleReady) p).bind fun _ => .done ())
        = bringAll es owner generated (es.spec.roles.flatMap roleParts) :=
    roleSteps_eq_bringAll howner fun _ hrole => ElasticsearchSpec.mem_roles.1 hrole
  rw [setUpSteps, takeSteps_append, setUpParts_eq, bringAll_append,
    ← securitySteps_eq_bringAll howner p, ← bind_const]
  simp only [quietly, Program.bind_assoc, hroles]

end Owned

/-! ## §2. What is written -/

section Generated

variable {g : Goal} {desired : Json}

/-- What is made of a generated object is written where it belongs. -/
theorem target?_of_generated (hg : Generated g desired) {stored : Option Json} {call : StoreCall}
    (h : Convergence.WritesFor g.kind desired stored call) : call.target? = some g.key := by
  have hcall : call.name = .ok g.name ∧ call.ns? = g.ns := by
    cases h with
    | create prepared =>
      exact ⟨(Convergence.name_withLastApplied prepared).trans hg.named,
        (Convergence.namespace?_withLastApplied prepared).trans hg.placed⟩
    | update prepared =>
      exact ⟨(Convergence.name_prepareUpdate prepared).trans hg.named,
        (Convergence.namespace?_prepareUpdate prepared).trans hg.placed⟩
  rw [StoreCall.target?, hcall.1, hcall.2, h.kind_eq]
  rfl

/-- An object that may be changed later is written at most once. -/
theorem writes_converge (hg : Generated g desired) :
    Writes [g.key] (ofStore (converge g.kind desired)) := by
  suffices h : Writes [g.key] (converge g.kind desired) from h.mapError _
  rw [converge, hg.named]
  refine writes_get fun answer => ?_
  cases hstored : Convergence.stored? answer with
  | error e => exact writes_fail _ e
  | ok stored =>
    show Writes [g.key] (Convergence.settle g.kind g.name desired stored)
    unfold Convergence.settle
    cases hwrite : Convergence.writeFor g.kind desired stored with
    | error e => exact writes_fail _ e
    | ok call? =>
      cases call? with
      | none => exact (writes_done _).mono (List.nil_sublist _)
      | some call =>
        have htarget := target?_of_generated hg (Convergence.writesFor_of_writeFor hwrite)
        refine writes_last htarget fun answer => ?_
        cases answer with
        | ok _ => exact writes_done _
        | error e => exact writes_fail _ e

/-- So is one that is created once. -/
theorem writes_ensureOnce {built : Except BuildError Json}
    (hg : ∀ {desired}, built = .ok desired → Generated g desired) :
    Writes [g.key] (ensureOnce PassError.store g.kind g.name g.ns (ofBuild built)) := by
  refine writes_get fun answer => ?_
  cases hstored : Convergence.stored? answer with
  | error e => exact writes_fail _ _
  | ok stored =>
    cases stored with
    | some _ => exact (writes_done _).mono (List.nil_sublist _)
    | none =>
      cases built with
      | error e => exact writes_fail _ _
      | ok desired =>
        show Writes [g.key] (createOnce PassError.store g.kind g.name desired)
        unfold createOnce
        cases hprepared : Convergence.prepareCreate desired with
        | error e => exact writes_fail _ _
        | ok object =>
          have htarget := target?_of_generated (hg rfl) (.create hprepared)
          refine writes_last htarget fun answer => ?_
          split
          · exact writes_done _
          · exact writes_done _
          · exact writes_fail _ _

end Generated

/-- What is wanted of an object can be written for its goal. -/
theorem generated_wanted (howner : Owner.ofMetadata .elasticsearch es.metadata = .ok owner)
    {part : Part} {desired : Json} (h : wanted es generated part = .ok desired) :
    Generated (part.goal owner) desired := by
  cases part with
  | password =>
    rw [wanted, passwordSecret_eq_ok howner] at h
    cases h
    exact Secret.generated rfl true
  | certificate =>
    rw [wanted, certificateSecret_eq_ok howner] at h
    cases h
    exact Secret.generated rfl true
  | token =>
    rw [wanted, tokenSecret_eq_ok howner] at h
    cases h
    exact Secret.generated rfl true
  | workload role =>
    rw [wanted] at h
    cases hbuilt : statefulSet es role with
    | error e =>
      rw [hbuilt] at h
      cases h
    | ok built =>
      rw [hbuilt] at h
      cases h
      obtain ⟨_, _, _, _, _, howner', -, -, hmetadata, -⟩ := exists_of_statefulSet hbuilt
      cases howner.symm.trans howner'
      exact StatefulSet.generated hmetadata false
  | routable role =>
    obtain ⟨routable, headless, hservices, hmetadata, -⟩ := services_eq_ok howner role
    rw [wanted, hservices] at h
    cases h
    exact Service.generated hmetadata false
  | headless role =>
    obtain ⟨routable, headless, hservices, -, hmetadata⟩ := services_eq_ok howner role
    rw [wanted, hservices] at h
    cases h
    exact Service.generated hmetadata false

/-- A workload is set up for the declared roles alone. -/
theorem declared_of_mem_setUpParts {role : Role} (h : .workload role ∈ setUpParts es) :
    (es.spec.nodes? role).isSome = true := by
  rw [setUpParts_eq] at h
  rcases List.mem_append.1 h with h | h
  · unfold secretParts at h
    rcases List.mem_append.1 h with h | h <;> split at h <;> simp at h
  · obtain ⟨role', hrole', h⟩ := List.mem_flatMap.1 h
    obtain rfl : role = role' := by simpa [roleParts] using h
    exact ElasticsearchSpec.mem_roles.1 hrole'

/-- The object of every part that is set up can be built. -/
theorem exists_wanted (howner : Owner.ofMetadata .elasticsearch es.metadata = .ok owner)
    (generated : String) {part : Part} (h : part ∈ setUpParts es) :
    ∃ desired, wanted es generated part = .ok desired := by
  cases part with
  | password => exact ⟨_, by rw [wanted, passwordSecret_eq_ok howner]; rfl⟩
  | certificate => exact ⟨_, by rw [wanted, certificateSecret_eq_ok howner]; rfl⟩
  | token => exact ⟨_, by rw [wanted, tokenSecret_eq_ok howner]; rfl⟩
  | workload role =>
    obtain ⟨workload, hworkload, -⟩ := statefulSet_eq_ok howner (declared_of_mem_setUpParts h)
    exact ⟨_, by rw [wanted, hworkload]; rfl⟩
  | routable role | headless role =>
    obtain ⟨routable, headless, hservices, -⟩ := services_eq_ok howner role
    exact ⟨_, by rw [wanted, hservices]; rfl⟩

theorem writes_bring (howner : Owner.ofMetadata .elasticsearch es.metadata = .ok owner)
    (part : Part) : Writes [(part.goal owner).key] (bring es owner generated part) := by
  unfold bring
  dsimp only
  split
  · exact writes_ensureOnce fun h => generated_wanted howner h
  · cases hwanted : wanted es generated part with
    | error e => exact writes_fail _ _
    | ok desired => exact writes_converge (generated_wanted howner hwanted)

theorem writes_bringAll (howner : Owner.ofMetadata .elasticsearch es.metadata = .ok owner)
    (parts : List Part) :
    Writes (parts.map fun part => (part.goal owner).key) (bringAll es owner generated parts) := by
  induction parts with
  | nil => exact writes_done ()
  | cons part rest ih => exact (writes_bring howner part).bind fun _ => ih

/-- **Setting up writes each object at most once**, one after the other. -/
theorem writes_setUp (howner : Owner.ofMetadata .elasticsearch es.metadata = .ok owner)
    (p : Progress) :
    Writes ((setUpParts es).map fun part => (part.goal owner).key)
      (takeSteps es owner.ns generated (setUpSteps es) p) := by
  intro events r h
  -- Without its result, setting up is to bring the objects in turn.
  have hquietly : ∃ r', Traces (quietly (takeSteps es owner.ns generated (setUpSteps es) p))
      events r' := by
    cases r with
    | error e => exact ⟨_, traces_bind_iff.2 (Or.inl ⟨e, h, rfl⟩)⟩
    | ok a =>
      exact ⟨.ok (), traces_bind_iff.2
        (Or.inr ⟨a, events, [], (List.append_nil _).symm, h, .done ()⟩)⟩
  obtain ⟨r', hquietly⟩ := hquietly
  rw [setUp_eq_bringAll howner p] at hquietly
  exact writes_bringAll howner _ _ _ hquietly

/-! ## §3. What is left -/

/-- What is planned for the objects that are set up, with the password that is
    generated. -/
def setUpPlan (es : LoggingOperator.Elasticsearch) (owner : Owner) (generated : String) : Plan :=
  .ofParts (Part.goal owner) fun part desired =>
    part ∈ setUpParts es ∧ wanted es generated part = .ok desired

section Settles

variable (howner : Owner.ofMetadata .elasticsearch es.metadata = .ok owner)
include howner

theorem sound_setUpPlan (generated : String) :
    (setUpPlan es owner generated).Sound
      (StoreKey.of .elasticsearch (some owner.ns) owner.name) :=
  Plan.sound_ofParts (fun h => generated_wanted howner h.2) Part.key_inj
    (fun h h' _ => Except.ok.inj (h.2.symm.trans h'.2)) fun part => part.key_ne_own owner _ _

variable {env : Environment} (htame : Tame env) {w : World}
include htame

/-- One object is brought to what is declared. -/
theorem leads_bring {part : Part} (hpart : part ∈ setUpParts es) :
    Leads env (setUpPlan es owner generated) (bring es owner generated part) w fun _ w' =>
      Fair env w.cluster → Settled (setUpPlan es owner generated) (part.goal owner) w'.store := by
  have hplan := sound_setUpPlan howner generated
  obtain ⟨desired, hwanted⟩ := exists_wanted howner generated hpart
  have haim : setUpPlan es owner generated (part.goal owner) desired :=
    ⟨part, rfl, hpart, hwanted⟩
  have hbuild : (ofBuild (wanted es generated part) : Pass Json) = .done desired := by
    rw [hwanted]
    rfl
  unfold bring
  rw [hbuild]
  dsimp only
  split
  · next honce =>
    exact leads_ensureOnce htame hplan honce fun _ _ => leads_done haim
  · next hmany =>
    exact (leads_converge htame hplan haim (Bool.not_eq_true _ ▸ hmany)).weaken
      fun _ _ _ _ hsettled _ => hsettled

/-- What was settled for one object stays so while the others are brought to what
    is declared. -/
theorem leads_bringAll {parts : List Part} (hparts : ∀ part ∈ parts, part ∈ setUpParts es) :
    Leads env (setUpPlan es owner generated) (bringAll es owner generated parts) w fun _ w' =>
      Fair env w.cluster → ∀ part ∈ parts,
        Settled (setUpPlan es owner generated) (part.goal owner) w'.store := by
  induction parts generalizing w with
  | nil => exact leads_done fun _ _ h => absurd h List.not_mem_nil
  | cons part rest ih =>
    obtain ⟨hpart, hrest⟩ := List.forall_mem_cons.1 hparts
    obtain ⟨desired, hwanted⟩ := exists_wanted howner generated hpart
    refine leads_bind (leads_bring howner htame hpart) fun _ between _ hfair hfirst => ?_
    refine (ih hrest).weaken fun _ w' hadvances _ hothers hfair' => ?_
    refine List.forall_mem_cons.2 ⟨?_, hothers (hfair.2 hfair')⟩
    exact hadvances.settled (sound_setUpPlan howner generated) ⟨part, rfl, hpart, hwanted⟩
      (hfirst hfair')

end Settles

/-- **Where no call fails, the objects that are set up need no further write.** -/
theorem settled_setUp (howner : Owner.ofMetadata .elasticsearch es.metadata = .ok owner)
    (generated : String) {σ : Script} (hσ : σ.Quiet) (s : Store) :
    ∃ events p t, (takeSteps es owner.ns generated (setUpSteps es) {}).course σ s
        = ⟨events, .ok p, t⟩
      ∧ Advances (setUpPlan es owner generated) s t
      ∧ AllSettled (setUpPlan es owner generated) t := by
  obtain ⟨events, p, t, hcourse, -⟩ := completes_setUp generated howner {} σ hσ s
  refine ⟨events, p, t, hcourse, ?_⟩
  -- The objects are brought to what is declared beside a cluster that serves.
  have hquietly : (quietly (takeSteps es owner.ns generated (setUpSteps es) {})).course σ s
      = ⟨events ++ [], .ok (), t⟩ := course_bind_of_ok hcourse _
  have hstoreOnly : (quietly (takeSteps es owner.ns generated (setUpSteps es) {})).StoreOnly :=
    ((keeps_setUp {}).bind fun _ => keeps_done ()).storeOnly fun _ _ _ => id
  have hrun := runs_course hstoreOnly hσ s servingCluster
  rw [hquietly, setUp_eq_bringAll howner] at hrun
  obtain ⟨hadvances, -, hsettled, -⟩ :=
    leads_bringAll howner tame_calm (fun _ h => h) _ _ hrun
  refine ⟨hadvances, ?_⟩
  rintro _ desired ⟨part, rfl, hpart, -⟩
  exact hsettled () rfl (fair_calm serves_servingCluster) part hpart

end Pass.Elasticsearch

end LoggingOperator
