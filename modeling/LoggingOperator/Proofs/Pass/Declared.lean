/-
  LoggingOperator.Proofs.Pass.Declared — A PASS OVER ANY DECLARATION.

  Search clusters, dashboards and shippers generate objects.  What they ask for
  depends on their identity and their spec alone (`plan_intent`); a status
  write changes neither (`ofJson?_restated`), so every pass over a declaration
  works towards the same plan.

  Where two passes may write different objects for one goal, these are secrets
  that differ in one generated value (`plan_agree`).
-/
import LoggingOperator.Controller
import LoggingOperator.Proofs.Pass.Elasticsearch
import LoggingOperator.Proofs.Pass.Fluentd
import LoggingOperator.Proofs.Pass.Kibana

namespace LoggingOperator

open Json
open Pass (Plan Goal Ends Closes Tame Reached)
open Program (World Environment)

/-! ## §1. What a declaration asks for -/

/-- The identity and the spec of a declaration. -/
def Declaration.intent {Spec Status : Type} (d : Declaration Spec Status) :
    Declaration Spec Status where
  metadata := { ns := d.metadata.ns, name := d.metadata.name, uid := d.metadata.uid }
  spec := d.spec

/-- The kind of object that holds a declaration which generates objects. -/
def DeclaredKind.storedAs? : DeclaredKind → Option Kind
  | .elasticsearch => some .elasticsearch
  | .kibana => some .kibana
  | .fluentd => some .fluentd
  | .indexTemplate | .indexLifecycle => none

/-- The secrets hold different values, and else are the same. -/
def Secret.Revalued (field : String) (x y : Json) : Prop :=
  ∃ (owner : Owner) (name : String) (labels : StringMap) (value value' : List UInt8),
    x = toJson { metadata := owner.metadata name labels, key := field, value }
      ∧ y = toJson { metadata := owner.metadata name labels, key := field, value := value' }

namespace Declared

/-- The identity and the spec of a declaration of any kind. -/
def intent : Declared → Declared
  | .elasticsearch d => .elasticsearch d.intent
  | .kibana d => .kibana d.intent
  | .fluentd d => .fluentd d.intent
  | .indexTemplate d => .indexTemplate d.intent
  | .indexLifecycle d => .indexLifecycle d.intent

/-- What is planned for a declaration; entries of a search cluster generate no
    objects. -/
def plan (init : Store) (owner : Owner) : Declared → Plan
  | .elasticsearch es => Manifest.Elasticsearch.plan es owner init
  | .kibana kb => Pass.Kibana.plan kb owner
  | .fluentd fd => Pass.Fluentd.plan fd owner
  | .indexTemplate _ | .indexLifecycle _ => .empty

/-- A status of a declaration of this kind. -/
def IsStatus : DeclaredKind → Json → Prop
  | .elasticsearch => Pass.Elasticsearch.IsStatus
  | .kibana => Pass.Kibana.IsStatus
  | .fluentd => Pass.Fluentd.IsStatus
  | .indexTemplate | .indexLifecycle => fun _ => False

variable {d d' : Declared} {dk : DeclaredKind} {kind : Kind} {init : Store} {owner : Owner}

theorem kind_of_ofJson? {v : Json} (h : ofJson? dk v = some d) : d.kind = dk := by
  cases dk <;>
  · obtain ⟨_, -, rfl⟩ := Option.map_eq_some_iff.1 h
    rfl

/-- **What is planned depends on the identity and the spec alone.** -/
theorem plan_intent (d : Declared) : d.intent.plan init owner = d.plan init owner := by
  cases d with
  | elasticsearch es =>
    refine congrArg (Plan.ofParts _) (funext fun part => ?_)
    cases part <;> rfl
  | kibana kb =>
    refine congrArg (Plan.ofParts _) (funext fun part => ?_)
    cases part <;> rfl
  | fluentd fd =>
    refine congrArg (Plan.ofParts _) (funext fun part => ?_)
    cases part <;> rfl
  | _ => rfl

theorem ofMetadata_intent (d : Declared) :
    Owner.ofMetadata dk d.intent.metadata = Owner.ofMetadata dk d.metadata := by
  cases d <;> rfl

/-- Declarations with the same intent have the same owner and the same plan. -/
theorem plan_eq (h : d'.intent = d.intent) :
    d'.plan init owner = d.plan init owner := by
  rw [← plan_intent d', h, plan_intent]

theorem ofMetadata_eq (h : d'.intent = d.intent) :
    Owner.ofMetadata dk d'.metadata = Owner.ofMetadata dk d.metadata := by
  rw [← ofMetadata_intent d', h, ofMetadata_intent]

/-! ## §2. The pass -/

/-- The goals of a declaration do not meet, nor the declaration itself. -/
theorem sound_plan (hkind : d.kind.storedAs? = some kind)
    (howner : Owner.ofMetadata d.kind d.metadata = .ok owner) :
    (d.plan init owner).Sound (StoreKey.of kind (some owner.ns) owner.name) := by
  cases d with
  | elasticsearch es =>
    cases hkind
    exact Manifest.Elasticsearch.sound_plan howner
  | kibana kb =>
    cases hkind
    exact Pass.Kibana.sound_plan howner
  | fluentd fd =>
    cases hkind
    exact Pass.Fluentd.sound_plan howner
  | _ => cases hkind

/-- **A pass over a declaration** brings its objects to what is declared and
    ends with a status write. -/
theorem closes_pass {env : Environment} (htame : Tame env) (hkind : dk.storedAs? = some kind)
    {current : Json} (hread : ofJson? dk current = some d)
    (howner : Owner.ofMetadata dk d.metadata = .ok owner) {w : World}
    (hreached : Reached (d.plan init owner) (StoreKey.of kind (some owner.ns) owner.name) init
      w.store)
    (hfound : w.store.object? (StoreKey.of kind (some owner.ns) owner.name) = some current)
    (generated : String) :
    Closes env (d.plan init owner) (StoreKey.of kind (some owner.ns) owner.name) (IsStatus dk)
      (d.pass generated) w id := by
  cases dk with
  | elasticsearch =>
    obtain ⟨es, hparsed, rfl⟩ := Option.map_eq_some_iff.1 hread
    cases hkind
    exact Pass.closes_map
      (Pass.Elasticsearch.closes_run htame howner hreached hparsed hfound) fun _ => rfl
  | kibana =>
    obtain ⟨kb, hparsed, rfl⟩ := Option.map_eq_some_iff.1 hread
    cases hkind
    exact Pass.closes_map (Pass.Kibana.closes_run htame howner hparsed hfound) fun _ => rfl
  | fluentd =>
    obtain ⟨fd, hparsed, rfl⟩ := Option.map_eq_some_iff.1 hread
    cases hkind
    exact Pass.closes_map (Pass.Fluentd.closes_run htame howner hparsed hfound) fun _ => rfl
  | _ => cases hkind

/-- **A status write leaves what is asked for as it was.** -/
theorem ofJson?_restated {current status : Json} (hread : ofJson? dk current = some d)
    (hstatus : IsStatus dk status) (version : String) :
    ∃ d', ofJson? dk (Store.setMeta "resourceVersion" (.string version)
        (current.set "status" status)) = some d' ∧ d'.intent = d.intent := by
  cases dk with
  | elasticsearch =>
    obtain ⟨es, hparsed, rfl⟩ := Option.map_eq_some_iff.1 hread
    obtain ⟨s, rfl⟩ := hstatus
    have hagain := Declaration.ofJson?_restated hparsed (by nofun) s.ofJson?_toJson version
    exact ⟨_, Option.map_eq_some_iff.2 ⟨_, hagain, rfl⟩, rfl⟩
  | kibana =>
    obtain ⟨kb, hparsed, rfl⟩ := Option.map_eq_some_iff.1 hread
    obtain ⟨s, rfl⟩ := hstatus
    have hagain := Declaration.ofJson?_restated hparsed (by nofun) s.ofJson?_toJson version
    exact ⟨_, Option.map_eq_some_iff.2 ⟨_, hagain, rfl⟩, rfl⟩
  | fluentd =>
    obtain ⟨fd, hparsed, rfl⟩ := Option.map_eq_some_iff.1 hread
    obtain ⟨s, rfl⟩ := hstatus
    have hagain := Declaration.ofJson?_restated hparsed (by nofun) s.ofJson?_toJson version
    exact ⟨_, Option.map_eq_some_iff.2 ⟨_, hagain, rfl⟩, rfl⟩
  | _ => cases hstatus

/-! ## §3. What is generated -/

/-- The field of a secret with a generated value, by the key of the secret. -/
def generatedField? (dk : DeclaredKind) (ns name : String) (key : StoreKey) : Option String :=
  match dk with
  | .elasticsearch =>
    if key = StoreKey.of .secret (some ns) (Naming.passwordSecret name) then some "password"
    else if key = StoreKey.of .secret (some ns) (Naming.tokenSecret name) then some "token"
    else none
  | _ => none

/-- **Two objects that are planned for one goal are the same**, unless they are
    secrets that differ in a generated value. -/
theorem plan_agree (howner : Owner.ofMetadata d.kind d.metadata = .ok owner) {g : Goal}
    {x y : Json} (hx : d.plan init owner g x) (hy : d.plan init owner g y) :
    x = y ∨ ∃ field, generatedField? d.kind owner.ns owner.name g.key = some field
      ∧ g.kind = .secret ∧ g.once = true ∧ Secret.Revalued field x y := by
  cases d with
  | elasticsearch es =>
    obtain ⟨part, rfl, hx⟩ := hx
    obtain ⟨part', hpart, hy⟩ := hy
    -- Two of the secrets hold a generated value; all other objects are built alike.
    cases Manifest.Elasticsearch.Part.key_inj (congrArg Goal.key hpart)
    cases part with
    | password =>
      obtain ⟨-, value, built, hbuilt, rfl⟩ := hx
      obtain ⟨-, value', built', hbuilt', rfl⟩ := hy
      cases hbuilt.symm.trans (Manifest.Elasticsearch.passwordSecret_eq_ok howner value)
      cases hbuilt'.symm.trans (Manifest.Elasticsearch.passwordSecret_eq_ok howner value')
      exact Or.inr ⟨"password", if_pos rfl, rfl, rfl, ⟨_, _, _, _, _, rfl, rfl⟩⟩
    | token =>
      obtain ⟨-, value, built, hbuilt, rfl⟩ := hx
      obtain ⟨-, value', built', hbuilt', rfl⟩ := hy
      cases hbuilt.symm.trans (Manifest.Elasticsearch.tokenSecret_eq_ok howner value)
      cases hbuilt'.symm.trans (Manifest.Elasticsearch.tokenSecret_eq_ok howner value')
      have hother : (Manifest.Elasticsearch.Part.token.goal owner).key
          ≠ (Manifest.Elasticsearch.Part.password.goal owner).key :=
        fun h => by cases Manifest.Elasticsearch.Part.key_inj h
      exact Or.inr ⟨"token", (if_neg hother).trans (if_pos rfl), rfl, rfl,
        ⟨_, _, _, _, _, rfl, rfl⟩⟩
    | certificate | workload role | routable role | headless role =>
      exact Or.inl (built_unique hx.2 hy.2)
  | kibana kb =>
    have hsound := Pass.Kibana.sound_plan howner
    refine Or.inl (hsound.single hx hy ?_)
    obtain ⟨part, rfl, -⟩ := hx
    cases part <;> rfl
  | fluentd fd =>
    obtain ⟨part, rfl, hx⟩ := hx
    obtain ⟨part', hpart, hy⟩ := hy
    -- Each part of a shipper is of a kind of its own.
    have hpart : part' = part := by
      have hkind := congrArg Goal.kind hpart
      cases part <;> cases part' <;> first | rfl | cases hkind
    subst hpart
    cases part' <;> exact Or.inl (built_unique hx hy)
  | _ => cases hx

end Declared

end LoggingOperator
