/-
  LoggingOperator.Proofs.Pass.Fluentd — A PASS OVER A LOG SHIPPER.

  A shipper asks for five objects of five kinds, so their goals do not meet
  (`sound_plan`).  Two of them are outside namespaces and are created once.
  Before the status is written the DaemonSet is read again: by then it is
  there, since the pass has just brought it to what is declared (`closes_run`).
-/
import LoggingOperator.Pass.Fluentd
import LoggingOperator.Proofs.Manifest.Owner
import LoggingOperator.Proofs.Pass.Status

namespace LoggingOperator

namespace Manifest.Fluentd

variable {fd : LoggingOperator.Fluentd} {owner : Owner}

theorem configMap_eq_ok (h : Owner.ofMetadata .fluentd fd.metadata = .ok owner) :
    ∃ built, configMap fd = .ok built
      ∧ built.metadata = owner.metadata owner.name (labels owner.name) := by
  unfold configMap
  rw [h]
  exact ⟨_, rfl, rfl⟩

theorem serviceAccount_eq_ok (h : Owner.ofMetadata .fluentd fd.metadata = .ok owner) :
    ∃ built, serviceAccount fd = .ok built
      ∧ built.metadata = owner.metadata owner.name (labels owner.name) := by
  unfold serviceAccount
  rw [h]
  exact ⟨_, rfl, rfl⟩

theorem rightsName_eq_ok (h : Owner.ofMetadata .fluentd fd.metadata = .ok owner) :
    rightsName fd = .ok (Naming.clusterScoped owner.ns owner.name) := by
  unfold rightsName
  rw [h]
  rfl

theorem clusterRole_eq_ok (h : Owner.ofMetadata .fluentd fd.metadata = .ok owner) :
    ∃ built, clusterRole fd = .ok built ∧ built.metadata
      = owner.clusterMetadata (Naming.clusterScoped owner.ns owner.name) (labels owner.name) := by
  unfold clusterRole
  rw [h]
  exact ⟨_, rfl, rfl⟩

theorem clusterRoleBinding_eq_ok (h : Owner.ofMetadata .fluentd fd.metadata = .ok owner) :
    ∃ built, clusterRoleBinding fd = .ok built ∧ built.metadata
      = owner.clusterMetadata (Naming.clusterScoped owner.ns owner.name) (labels owner.name) := by
  unfold clusterRoleBinding
  rw [h]
  exact ⟨_, rfl, rfl⟩

theorem daemonSet_eq_ok (h : Owner.ofMetadata .fluentd fd.metadata = .ok owner) :
    ∃ built, daemonSet fd = .ok built
      ∧ built.metadata = owner.metadata owner.name (labels owner.name) := by
  unfold daemonSet
  rw [h]
  exact ⟨_, rfl, rfl⟩

end Manifest.Fluentd

namespace Pass.Fluentd

open Manifest.Fluentd
open Convergence (converge ensureOnce)
open Program (World Environment)

/-! ## §1. What a shipper asks for -/

/-- The objects that a shipper asks for. -/
inductive Part where
  | config
  | account
  | rights
  | binding
  | workload

/-- Where the objects are stored. -/
def goal (owner : Owner) : Part → Goal
  | .config => ⟨.configMap, some owner.ns, owner.name, false⟩
  | .account => ⟨.serviceAccount, some owner.ns, owner.name, false⟩
  | .rights => ⟨.clusterRole, none, Naming.clusterScoped owner.ns owner.name, true⟩
  | .binding => ⟨.clusterRoleBinding, none, Naming.clusterScoped owner.ns owner.name, true⟩
  | .workload => ⟨.daemonSet, some owner.ns, owner.name, false⟩

/-- What the objects are. -/
def Builds (fd : LoggingOperator.Fluentd) : Part → Json → Prop
  | .config, d => ∃ built, configMap fd = .ok built ∧ d = built.toJson
  | .account, d => ∃ built, serviceAccount fd = .ok built ∧ d = built.toJson
  | .rights, d => ∃ built, clusterRole fd = .ok built ∧ d = built.toJson
  | .binding, d => ∃ built, clusterRoleBinding fd = .ok built ∧ d = built.toJson
  | .workload, d => ∃ built, daemonSet fd = .ok built ∧ d = built.toJson

/-- What is planned for a shipper. -/
def plan (fd : LoggingOperator.Fluentd) (owner : Owner) : Plan :=
  .ofParts (goal owner) (Builds fd)

/-- The goals of a shipper do not meet. -/
theorem sound_plan {fd : LoggingOperator.Fluentd} {owner : Owner}
    (howner : Owner.ofMetadata .fluentd fd.metadata = .ok owner) :
    (plan fd owner).Sound (StoreKey.of .fluentd (some owner.ns) owner.name) := by
  refine Plan.sound_ofParts ?_ ?_ ?_ ?_
  · intro part d hd
    cases part with
    | config => exact of_built (configMap_eq_ok howner) hd fun _ h => ConfigMap.generated h false
    | account =>
      exact of_built (serviceAccount_eq_ok howner) hd fun _ h => ServiceAccount.generated h false
    | rights =>
      exact of_built (clusterRole_eq_ok howner) hd fun _ h => ClusterRole.generated h true
    | binding =>
      exact of_built (clusterRoleBinding_eq_ok howner) hd
        fun _ h => ClusterRoleBinding.generated h true
    | workload => exact of_built (daemonSet_eq_ok howner) hd fun _ h => DaemonSet.generated h false
  · -- No two parts are of the same kind.
    intro part part' hkey
    have hkind := congrArg StoreKey.kind hkey
    cases part <;> cases part' <;> first | rfl | cases hkind
  · intro part d d' hd hd' _
    cases part <;> exact built_unique hd hd'
  · intro part hkey
    have hkind := congrArg StoreKey.kind hkey
    cases part <;> cases hkind

/-! ## §2. The pass -/

/-- A status of a shipper. -/
def IsStatus (v : Json) : Prop :=
  ∃ s : FluentdStatus, v = s.toJson

/-- **A pass over a shipper** brings its objects to what is declared and ends
    with a status write. -/
theorem closes_run {env : Environment} (htame : Tame env) {fd : LoggingOperator.Fluentd}
    {owner : Owner} (howner : Owner.ofMetadata .fluentd fd.metadata = .ok owner) {w : World}
    {current : Json} (hread : LoggingOperator.Fluentd.ofJson? current = some fd)
    (hfound : w.store.object? (StoreKey.of .fluentd (some owner.ns) owner.name) = some current) :
    Closes env (plan fd owner) (StoreKey.of .fluentd (some owner.ns) owner.name) IsStatus (run fd) w
      StackReport.statusConflict := by
  have hplan := sound_plan howner
  obtain ⟨hns, hname⟩ := Owner.of_ofMetadata howner
  obtain ⟨config, hconfig, -⟩ := configMap_eq_ok howner
  obtain ⟨account, haccount, -⟩ := serviceAccount_eq_ok howner
  obtain ⟨rights, hrights, -⟩ := clusterRole_eq_ok howner
  obtain ⟨binding, hbinding, -⟩ := clusterRoleBinding_eq_ok howner
  obtain ⟨workload, hworkload, -⟩ := daemonSet_eq_ok howner
  have hnamespace : namespaceOf .fluentd fd.metadata = .done owner.ns := by
    rw [namespaceOf, hns]
  have hid : fd.id = owner.name := by
    rw [Declaration.id, Metadata.anyName, hname]
    rfl
  simp only [run, hnamespace, hrights, hbinding, hid, Except.map, Program.bind_eq,
    Program.pure_eq, Program.done_bind]
  refine closes_ofBuild hconfig ?_
  refine closes_bind hplan (leads_converge (g := goal owner .config) htame hplan
    ⟨.config, rfl, config, hconfig, rfl⟩ rfl) ?_
  intro _ w₁ step₁ _ hset₁
  refine closes_ofBuild haccount ?_
  refine closes_bind hplan (leads_converge (g := goal owner .account) htame hplan
    ⟨.account, rfl, account, haccount, rfl⟩ rfl) ?_
  intro _ w₂ step₂ _ hset₂
  refine closes_ofBuild (rightsName_eq_ok howner) ?_
  refine closes_bind hplan (leads_ensureOnce (g := goal owner .rights) htame hplan rfl
    fun _ _ => leads_done ⟨.rights, rfl, rights, hrights, rfl⟩) ?_
  intro _ w₃ step₃ fair₃ hset₃
  refine closes_bind hplan (leads_ensureOnce (g := goal owner .binding) htame hplan rfl
    fun _ _ => leads_done ⟨.binding, rfl, binding, hbinding, rfl⟩) ?_
  intro _ w₄ step₄ fair₄ hset₄
  refine closes_ofBuild hworkload ?_
  refine closes_bind hplan (leads_converge (g := goal owner .workload) htame hplan
    ⟨.workload, rfl, workload, hworkload, rfl⟩ rfl) ?_
  intro _ w₅ step₅ fair₅ hset₅
  -- The workload is read once more, for the number of its agents.
  obtain ⟨stored, hstored, -⟩ := id hset₅
  refine closes_bind hplan (leads_read hstored) ?_
  intro _ w₆ step₆ fair₆ _
  -- What each step settled is still so after all later ones.
  have after₄ := step₅.trans step₆
  have after₃ := step₄.trans after₄
  have after₂ := step₃.trans after₃
  have after₁ := step₂.trans after₂
  refine closes_map (closes_writeStatus (restatable_of_ofJson? hread hns hname) ?_ ?_ ⟨_, rfl⟩)
    fun _ => rfl
  · rw [after₁.own_eq hplan, step₁.own_eq hplan, hfound]
  · rintro hfair _ d ⟨part, rfl, hd⟩
    have hfair₅ := fair₆.1 hfair
    have hfair₄ := fair₅.1 hfair₅
    have hfair₃ := fair₄.1 hfair₄
    cases part with
    | config => exact after₁.settled hplan ⟨.config, rfl, hd⟩ hset₁
    | account => exact after₂.settled hplan ⟨.account, rfl, hd⟩ hset₂
    | rights => exact after₃.settled hplan ⟨.rights, rfl, hd⟩ (hset₃ (fair₃.1 hfair₃))
    | binding => exact after₄.settled hplan ⟨.binding, rfl, hd⟩ (hset₄ hfair₃)
    | workload => exact step₆.settled hplan ⟨.workload, rfl, hd⟩ hset₅

end Pass.Fluentd

end LoggingOperator
