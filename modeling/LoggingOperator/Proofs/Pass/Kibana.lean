/-
  LoggingOperator.Proofs.Pass.Kibana — A PASS OVER A DASHBOARD.

  A dashboard asks for a Deployment and a Service.  They are of different
  kinds, so their goals do not meet (`sound_plan`), and a pass brings them to
  what is declared one after the other (`closes_run`).
-/
import LoggingOperator.Pass.Kibana
import LoggingOperator.Proofs.Manifest.Owner
import LoggingOperator.Proofs.Pass.Status

namespace LoggingOperator

open Json Json.Record

namespace Manifest.Kibana

variable {kb : LoggingOperator.Kibana} {owner : Owner}

theorem deployment_eq_ok (h : Owner.ofMetadata .kibana kb.metadata = .ok owner) :
    ∃ built, deployment kb = .ok built
      ∧ built.metadata = owner.metadata owner.name (labels owner.name) := by
  unfold deployment
  rw [h]
  exact ⟨_, rfl, rfl⟩

theorem service_eq_ok (h : Owner.ofMetadata .kibana kb.metadata = .ok owner) :
    ∃ built, service kb = .ok built
      ∧ built.metadata = owner.metadata owner.name (labels owner.name) := by
  unfold service
  rw [h]
  exact ⟨_, rfl, rfl⟩

end Manifest.Kibana

namespace Pass.Kibana

open Manifest.Kibana (deployment deployment_eq_ok service service_eq_ok)
open Convergence (converge)
open Program (World Environment)

/-! ## §1. What a dashboard asks for -/

/-- The objects that a dashboard asks for. -/
inductive Part where
  | deployment
  | service

/-- Where the objects are stored. -/
def goal (owner : Owner) : Part → Goal
  | .deployment => ⟨.deployment, some owner.ns, owner.name, false⟩
  | .service => ⟨.service, some owner.ns, owner.name, false⟩

/-- What the objects are. -/
def Builds (kb : LoggingOperator.Kibana) : Part → Json → Prop
  | .deployment, d => ∃ built, deployment kb = .ok built ∧ d = built.toJson
  | .service, d => ∃ built, service kb = .ok built ∧ d = built.toJson

/-- What is planned for a dashboard. -/
def plan (kb : LoggingOperator.Kibana) (owner : Owner) : Plan :=
  .ofParts (goal owner) (Builds kb)

/-- The goals of a dashboard do not meet. -/
theorem sound_plan {kb : LoggingOperator.Kibana} {owner : Owner}
    (howner : Owner.ofMetadata .kibana kb.metadata = .ok owner) :
    (plan kb owner).Sound (StoreKey.of .kibana (some owner.ns) owner.name) := by
  refine Plan.sound_ofParts ?_ ?_ ?_ ?_
  · intro part d hd
    cases part with
    | deployment =>
      exact of_built (deployment_eq_ok howner) hd fun _ h => Deployment.generated h false
    | service => exact of_built (service_eq_ok howner) hd fun _ h => Service.generated h false
  · -- The two parts are of different kinds.
    intro part part' hkey
    have hkind := congrArg StoreKey.kind hkey
    cases part <;> cases part' <;> first | rfl | cases hkind
  · intro part d d' hd hd' _
    cases part <;> exact built_unique hd hd'
  · intro part hkey
    have hkind := congrArg StoreKey.kind hkey
    cases part <;> cases hkind

/-! ## §2. The pass -/

/-- A status of a dashboard. -/
def IsStatus (v : Json) : Prop :=
  ∃ s : KibanaStatus, v = s.toJson

/-- **A pass over a dashboard** brings its objects to what is declared and ends
    with a status write. -/
theorem closes_run {env : Environment} (htame : Tame env) {kb : LoggingOperator.Kibana}
    {owner : Owner} (howner : Owner.ofMetadata .kibana kb.metadata = .ok owner) {w : World}
    {current : Json} (hread : LoggingOperator.Kibana.ofJson? current = some kb)
    (hfound : w.store.object? (StoreKey.of .kibana (some owner.ns) owner.name) = some current) :
    Closes env (plan kb owner) (StoreKey.of .kibana (some owner.ns) owner.name) IsStatus (run kb) w
      StackReport.statusConflict := by
  have hplan := sound_plan howner
  obtain ⟨hns, hname⟩ := Owner.of_ofMetadata howner
  obtain ⟨workload, hworkload, -⟩ := deployment_eq_ok howner
  obtain ⟨address, haddress, -⟩ := service_eq_ok howner
  have hnamespace : namespaceOf .kibana kb.metadata = .done owner.ns := by
    rw [namespaceOf, hns]
  have hdeployment : ∀ w, Leads env (plan kb owner) (ofStore (converge .deployment workload.toJson))
      w fun _ w' => Settled (plan kb owner) (goal owner .deployment) w'.store :=
    fun _ => leads_converge (g := goal owner .deployment) htame hplan
      ⟨.deployment, rfl, workload, hworkload, rfl⟩ rfl
  have hservice : ∀ w, Leads env (plan kb owner) (ofStore (converge .service address.toJson))
      w fun _ w' => Settled (plan kb owner) (goal owner .service) w'.store :=
    fun _ => leads_converge (g := goal owner .service) htame hplan
      ⟨.service, rfl, address, haddress, rfl⟩ rfl
  simp only [run, hnamespace, Program.bind_eq, Program.pure_eq, Program.done_bind]
  refine closes_ofBuild hworkload ?_
  refine closes_bind hplan (hdeployment w) ?_
  intro _ w₁ hfirst _ hset₁
  refine closes_ofBuild haddress ?_
  refine closes_bind hplan (hservice w₁) ?_
  intro _ w₂ hsecond _ hset₂
  refine closes_map (closes_writeStatus (restatable_of_ofJson? hread hns hname) ?_ ?_ ⟨_, rfl⟩)
    fun _ => rfl
  · rw [hsecond.own_eq hplan, hfirst.own_eq hplan, hfound]
  · rintro - _ d ⟨part, rfl, hd⟩
    cases part with
    | deployment => exact hsecond.settled hplan ⟨.deployment, rfl, hd⟩ hset₁
    | service => exact hset₂

end Pass.Kibana

end LoggingOperator
