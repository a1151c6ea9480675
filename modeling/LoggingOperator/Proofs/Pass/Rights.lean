/-
  LoggingOperator.Proofs.Pass.Rights — WHOSE RIGHTS A BINDING GRANTS.

  The role of a shipper and its binding are in no namespace.  They are named by
  the namespace and the name of the shipper, joined by a hyphen, so that
  shippers of the same name do not share them (`bound_of_same_name`).

  But namespaces and names may have hyphens in them, and then the joined name
  does not tell where the one ends and the other begins: the shipper `b-c` in
  `a` and the shipper `c` in `a-b` both ask for `a-b-c`.  Their binding is
  created once, by the pass that comes first, and the second pass takes what
  it finds for its own.  So the second shipper has a binding for its account
  exactly if the joined names differ (`bound_second_iff`).
-/
import LoggingOperator.Proofs.Pass.Calls
import LoggingOperator.Proofs.Pass.Fluentd

namespace LoggingOperator

open Json

/-! ## §1. Joined names -/

namespace Naming

theorem toList_clusterScoped (ns id : String) :
    (clusterScoped ns id).toList = ns.toList ++ '-' :: id.toList := by
  show (ns ++ "-" ++ id).toList = _
  simp

/-- In front of the same name, the joined name tells the namespace. -/
theorem ns_eq_of_clusterScoped {ns ns' id : String}
    (h : clusterScoped ns id = clusterScoped ns' id) : ns = ns' := by
  have hlist := congrArg String.toList h
  rw [toList_clusterScoped, toList_clusterScoped] at hlist
  exact String.toList_inj.1 (List.append_cancel_right hlist)

end Naming

namespace Pass.Fluentd

open Convergence (Wrote)
open Manifest.Fluentd
open Program (World)
open Management (Cluster)

/-! ## §2. Bindings -/

/-- Under which name the rights of a shipper are stored. -/
def bindingKey (ns name : String) : StoreKey :=
  StoreKey.of .clusterRoleBinding none (Naming.clusterScoped ns name)

/-- What a binding says of the role that it grants. -/
def roleReference (name : String) : Json :=
  .ofFields [
    ("apiGroup", .string Kind.clusterRole.group),
    ("kind", .string Kind.clusterRole.name),
    ("name", .string name)]

/-- The service account of a shipper, as the subject of a binding. -/
def account (ns name : String) : Json :=
  .ofFields [
    ("kind", .string Kind.serviceAccount.name),
    ("name", .string name),
    ("namespace", .string ns)]

/-- The binding grants the role of the shipper to these subjects. -/
structure Grants (ns name : String) (subjects : List Json) (binding : Json) : Prop where
  role : binding.get? "roleRef" = some (roleReference (Naming.clusterScoped ns name))
  subjects : binding.get? "subjects" = some (.array subjects)

/-- There is a binding under the name of the shipper's rights, and it grants the
    role of that name to the shipper's own account. -/
def Bound (ns name : String) (s : Store) : Prop :=
  ∃ binding subjects, s.object? (bindingKey ns name) = some binding
    ∧ Grants ns name subjects binding ∧ account ns name ∈ subjects

/-- The account of a shipper tells its namespace and its name. -/
theorem account_inj {ns name ns' name' : String} (h : account ns name = account ns' name') :
    ns = ns' ∧ name = name' := by
  have hname := congrArg (Json.get? "name") h
  have hns := congrArg (Json.get? "namespace") h
  exact ⟨Json.string.inj (Option.some.inj hns), Json.string.inj (Option.some.inj hname)⟩

variable {fd : LoggingOperator.Fluentd} {owner : Owner}

/-- What is built for a binding grants the role to the shipper's account alone. -/
theorem grants_of_built (howner : Owner.ofMetadata .fluentd fd.metadata = .ok owner) {d : Json}
    (hd : Builds fd .binding d) : Grants owner.ns owner.name [account owner.ns owner.name] d := by
  obtain ⟨built, hbuilt, rfl⟩ := hd
  unfold clusterRoleBinding at hbuilt
  rw [howner] at hbuilt
  cases hbuilt
  constructor
  · rw [ClusterRoleBinding.toJson, Kind.get?_own (by decide)]
    rfl
  · rw [ClusterRoleBinding.toJson, Kind.get?_own (by decide)]
    rfl

/-- **A binding that is created is stored as it was built.** -/
theorem grants_of_wrote (howner : Owner.ofMetadata .fluentd fd.metadata = .ok owner)
    {d after : Json} (hd : Builds fd .binding d) (h : Wrote .clusterRoleBinding d none after) :
    Grants owner.ns owner.name [account owner.ns owner.name] after := by
  have hgrants := grants_of_built howner hd
  obtain ⟨built, hbuilt, rfl⟩ := hd
  obtain ⟨built', hbuilt', hmetadata⟩ := clusterRoleBinding_eq_ok howner
  cases hbuilt'.symm.trans hbuilt
  have hcanonical : built.toJson.Canonical :=
    (ClusterRoleBinding.generated hmetadata true).canonical
  have hannotated : Convergence.Annotated built.toJson := by
    rw [ClusterRoleBinding.toJson, hmetadata]
    exact Kind.annotated_object rfl
  -- The store hides nothing in the two fields.
  have hagree := h.agree_desired ⟨by decide, rfl⟩ hannotated
  have hafter := h.canonical hcanonical fun _ hnone => by cases hnone
  constructor
  · rw [hagree.get?_eq hcanonical hafter fun _ => rfl]
    exact hgrants.role
  · rw [hagree.get?_eq hcanonical hafter fun _ => rfl]
    exact hgrants.subjects

/-! ## §3. One pass -/

/-- The key under which a shipper is declared. -/
def declaredKey (ns name : String) : StoreKey :=
  StoreKey.of .fluentd (some ns) name

/-- The store holds this declaration, which has a uid. -/
structure Declares (fd : LoggingOperator.Fluentd) (ns name : String) (s : Store) : Prop where
  stored : ∃ current, s.object? (declaredKey ns name) = some current
    ∧ LoggingOperator.Fluentd.ofJson? current = some fd
  ns_eq : fd.metadata.ns = some ns
  name_eq : fd.metadata.name = some name
  identified : ∃ uid, fd.metadata.uid = some uid

/-- A declaration is the owner of what is generated for it. -/
theorem Declares.exists_owner {ns name : String} {s : Store} (h : Declares fd ns name s) :
    ∃ owner, Owner.ofMetadata .fluentd fd.metadata = .ok owner
      ∧ owner.ns = ns ∧ owner.name = name := by
  obtain ⟨uid, huid⟩ := h.identified
  exact Owner.ofMetadata_eq_ok h.ns_eq h.name_eq huid

/-- What a pass leaves of the store in which it starts. -/
structure Leaves (fd : LoggingOperator.Fluentd) (owner : Owner) (s s' : Store) : Prop where
  failures : s'.failures = []
  reached : Reached (plan fd owner) (declaredKey owner.ns owner.name) s s'
  settled : AllSettled (plan fd owner) s'

/-- A pass over a shipper calls the object store alone. -/
theorem storeOnly_run (fd : LoggingOperator.Fluentd) : (run fd).StoreOnly := by
  have hcalls : Lenient fun event => ∃ call answer, event = .store call answer :=
    fun call answer _ => ⟨call, answer, rfl⟩
  refine (keeps_run hcalls fd).storeOnly ?_
  rintro endpoint call answer ⟨_, _, h⟩
  cases h

/-- The end of a pass where nothing fails. -/
theorem leaves_of_ends (howner : Owner.ofMetadata .fluentd fd.metadata = .ok owner) {c : Cluster}
    (hfair : Fair Program.calm c) {s s' : Store} (hfailures : s'.failures = [])
    {r : Except PassError StackReport}
    (h : Ends Program.calm (plan fd owner) (declaredKey owner.ns owner.name) IsStatus c s
      (r.map StackReport.statusConflict) s') :
    (∃ report, r = .ok report) ∧ Leaves fd owner s s' := by
  have hplan := sound_plan howner
  generalize hr : r.map StackReport.statusConflict = conflict at h
  cases h with
  | stopped unfair _ _ => exact absurd hfair unfair
  | @finished between _ current status version advanced settled found written stored noted =>
    -- The status write changes the declaration alone.
    have hsame : ∀ key, key ≠ declaredKey owner.ns owner.name →
        s'.object? key = between.object? key :=
      fun key hkey => Advances.object?_of_ne stored hkey
    refine ⟨?_, hfailures, (advanced.reached hplan (.refl _ _ s)).congr hsame,
      (settled hfair).congr hplan hsame⟩
    cases r with
    | ok report => exact ⟨report, rfl⟩
    | error e => cases hr

/-- **A pass over a shipper succeeds where nothing fails**, and settles all goals. -/
theorem leaves_run (howner : Owner.ofMetadata .fluentd fd.metadata = .ok owner) {w : World}
    (hdeclared : Declares fd owner.ns owner.name w.store) (hfailures : w.store.failures = []) :
    (∃ report, ((run fd).run w).1 = .ok report)
      ∧ Leaves fd owner w.store ((run fd).run w).2.store := by
  obtain ⟨s, c⟩ := w
  obtain ⟨current, hfound, hread⟩ := hdeclared.stored
  -- Any cluster will do, so that it may as well be one that is ready.
  obtain ⟨serving, hserves⟩ : ∃ serving : Cluster, serving.Serves :=
    ⟨{ health := .ok { colour := "green" }, token := .ok "" }, ⟨_, rfl, by decide⟩, ⟨_, rfl⟩⟩
  rw [Program.run_eq_of_storeOnly (storeOnly_run fd) s c serving]
  exact leaves_of_ends howner (fair_calm hserves)
    (Program.failures_run (run fd) (w := ⟨s, serving⟩) hfailures)
    (closes_run tame_calm howner (w := ⟨s, serving⟩) hread hfound _ _
      (Program.runs_calm (run fd) (w := ⟨s, serving⟩) hfailures))

/-! ## §4. What a pass does to bindings -/

section Leaves

variable {s s' : Store} {key : StoreKey}

/-- A binding that a pass writes is its own, and was not there. -/
theorem written_binding (howner : Owner.ofMetadata .fluentd fd.metadata = .ok owner)
    (hkind : key.kind = .clusterRoleBinding) {after : Json}
    (h : Written (plan fd owner) s key after) :
    key = bindingKey owner.ns owner.name ∧ s.object? key = none
      ∧ Grants owner.ns owner.name [account owner.ns owner.name] after := by
  obtain ⟨_, d, ⟨part, rfl, hd⟩, rfl, absent, -, made⟩ := h
  cases part with
  | binding =>
    have hnone := absent rfl
    rw [hnone] at made
    exact ⟨rfl, hnone, grants_of_wrote howner hd made⟩
  | config | account | rights | workload => cases hkind

/-- No pass writes a declaration as one of its goals. -/
theorem not_written_declaration (hkind : key.kind = .fluentd) {after : Json} :
    ¬ Written (plan fd owner) s key after := by
  rintro ⟨_, d, ⟨part, rfl, -⟩, rfl, -⟩
  cases part <;> cases hkind

variable (h : Leaves fd owner s s')
include h

/-- A binding that is there is kept, whosever it is. -/
theorem Leaves.binding_kept (howner : Owner.ofMetadata .fluentd fd.metadata = .ok owner)
    (hkind : key.kind = .clusterRoleBinding) {binding : Json}
    (hfound : s.object? key = some binding) : s'.object? key = some binding := by
  have hown : key ≠ declaredKey owner.ns owner.name := fun hkey => by
    rw [hkey] at hkind
    cases hkind
  rcases h.reached key hown with hsame | ⟨after, -, hwritten⟩
  · rw [hsame, hfound]
  · obtain ⟨-, hnone, -⟩ := written_binding howner hkind hwritten
    rw [hfound] at hnone
    cases hnone

/-- Of a binding that is not there, only the shipper's own is created. -/
theorem Leaves.binding_absent (howner : Owner.ofMetadata .fluentd fd.metadata = .ok owner)
    (hkind : key.kind = .clusterRoleBinding) (hother : key ≠ bindingKey owner.ns owner.name)
    (hnone : s.object? key = none) : s'.object? key = none := by
  have hown : key ≠ declaredKey owner.ns owner.name := fun hkey => by
    rw [hkey] at hkind
    cases hkind
  rcases h.reached key hown with hsame | ⟨after, -, hwritten⟩
  · rw [hsame, hnone]
  · exact absurd (written_binding howner hkind hwritten).1 hother

/-- **Where the shipper has no binding, it gets one for its account alone.** -/
theorem Leaves.binding_created (howner : Owner.ofMetadata .fluentd fd.metadata = .ok owner)
    (hnone : s.object? (bindingKey owner.ns owner.name) = none) :
    ∃ binding, s'.object? (bindingKey owner.ns owner.name) = some binding
      ∧ Grants owner.ns owner.name [account owner.ns owner.name] binding := by
  obtain ⟨built, hbuilt, -⟩ := clusterRoleBinding_eq_ok howner
  obtain ⟨stored, hstored, -⟩ := h.settled _ _ ⟨.binding, rfl, built, hbuilt, rfl⟩
  have hstored : s'.object? (bindingKey owner.ns owner.name) = some stored := hstored
  rcases h.reached (bindingKey owner.ns owner.name) nofun with hsame | ⟨after, hafter, hwritten⟩
  · rw [hsame, hnone] at hstored
    cases hstored
  · exact ⟨after, hafter, (written_binding howner rfl hwritten).2.2⟩

/-- The declarations of other shippers are kept. -/
theorem Leaves.declares {other : LoggingOperator.Fluentd} {ns name : String}
    (hother : (owner.ns, owner.name) ≠ (ns, name)) (hdeclared : Declares other ns name s) :
    Declares other ns name s' := by
  have hkey : declaredKey ns name ≠ declaredKey owner.ns owner.name := fun hkey =>
    hother (Prod.ext (congrArg StoreKey.ns hkey).symm (congrArg StoreKey.name hkey).symm)
  refine { hdeclared with stored := ?_ }
  obtain ⟨current, hfound, hread⟩ := hdeclared.stored
  rcases h.reached _ hkey with hsame | ⟨after, -, hwritten⟩
  · exact ⟨current, hsame.trans hfound, hread⟩
  · exact absurd hwritten (not_written_declaration rfl)

end Leaves

/-! ## §5. Two shippers -/

section Two

variable {first second : LoggingOperator.Fluentd}

section Bindings

variable {a b : Owner} {s t u : Store}
  (ha : Owner.ofMetadata .fluentd first.metadata = .ok a)
  (hb : Owner.ofMetadata .fluentd second.metadata = .ok b)
  (hfirst : Leaves first a s t) (hsecond : Leaves second b t u)
  (hnone : ∀ key, key.kind = .clusterRoleBinding → s.object? key = none)
include ha hb hfirst hsecond hnone

/-- The binding of the first pass is there after the second. -/
theorem grants_first :
    ∃ binding, u.object? (bindingKey a.ns a.name) = some binding
      ∧ Grants a.ns a.name [account a.ns a.name] binding := by
  obtain ⟨binding, hbinding, hgrants⟩ := hfirst.binding_created ha (hnone _ rfl)
  exact ⟨binding, hsecond.binding_kept hb rfl hbinding, hgrants⟩

theorem bound_first : Bound a.ns a.name u := by
  obtain ⟨binding, hbinding, hgrants⟩ := grants_first ha hb hfirst hsecond hnone
  exact ⟨binding, _, hbinding, hgrants, List.mem_singleton_self _⟩

/-- Under another name, the second pass creates a binding of its own. -/
theorem bound_second
    (hnames : Naming.clusterScoped a.ns a.name ≠ Naming.clusterScoped b.ns b.name) :
    Bound b.ns b.name u := by
  have hkey : bindingKey b.ns b.name ≠ bindingKey a.ns a.name :=
    fun hkey => hnames (congrArg StoreKey.name hkey).symm
  obtain ⟨binding, hbinding, hgrants⟩ := hsecond.binding_created hb
    (hfirst.binding_absent ha rfl hkey (hnone _ rfl))
  exact ⟨binding, _, hbinding, hgrants, List.mem_singleton_self _⟩

/-- **Under the same name, the second pass takes the binding of the first for its
    own**, which does not name the second shipper's account. -/
theorem not_bound_second (hother : (a.ns, a.name) ≠ (b.ns, b.name))
    (hnames : Naming.clusterScoped a.ns a.name = Naming.clusterScoped b.ns b.name) :
    ¬ Bound b.ns b.name u := by
  rintro ⟨binding, subjects, hbinding, hgrants, hmem⟩
  obtain ⟨binding', hbinding', hgrants'⟩ := grants_first ha hb hfirst hsecond hnone
  have hkey : bindingKey b.ns b.name = bindingKey a.ns a.name := by
    rw [bindingKey, bindingKey, hnames]
  rw [hkey, hbinding'] at hbinding
  cases hbinding
  have hsubjects := hgrants.subjects
  rw [hgrants'.subjects] at hsubjects
  cases hsubjects
  obtain ⟨hns, hname⟩ := account_inj (List.mem_singleton.1 hmem)
  exact hother (by rw [hns, hname])

end Bindings

/-- Two shippers are declared, and there is nothing else. -/
structure OnlyDeclares (first second : LoggingOperator.Fluentd) (ns name ns' name' : String)
    (s : Store) : Prop where
  first : Declares first ns name s
  second : Declares second ns' name' s
  distinct : (ns, name) ≠ (ns', name')
  alone : ∀ key object, s.object? key = some object →
    key = declaredKey ns name ∨ key = declaredKey ns' name'
  failures : s.failures = []

variable {ns name ns' name' : String} {w : World}

/-- There is no binding yet. -/
theorem OnlyDeclares.no_binding {s : Store} (h : OnlyDeclares first second ns name ns' name' s)
    (key : StoreKey) (hkind : key.kind = .clusterRoleBinding) : s.object? key = none := by
  cases hfound : s.object? key with
  | none => rfl
  | some object =>
    rcases h.alone key object hfound with rfl | rfl <;> cases hkind

/-- A pass over the one shipper and then over the other, in two steps. -/
theorem OnlyDeclares.leaves (h : OnlyDeclares first second ns name ns' name' w.store) :
    ∃ a b : Owner, Owner.ofMetadata .fluentd first.metadata = .ok a ∧ a.ns = ns ∧ a.name = name
      ∧ Owner.ofMetadata .fluentd second.metadata = .ok b ∧ b.ns = ns' ∧ b.name = name'
      ∧ (∃ report, ((run first).run w).1 = .ok report)
      ∧ (∃ report, ((run second).run ((run first).run w).2).1 = .ok report)
      ∧ Leaves first a w.store ((run first).run w).2.store
      ∧ Leaves second b ((run first).run w).2.store
          ((run second).run ((run first).run w).2).2.store := by
  obtain ⟨a, ha, rfl, rfl⟩ := h.first.exists_owner
  obtain ⟨b, hb, rfl, rfl⟩ := h.second.exists_owner
  obtain ⟨hreport, hfirst⟩ := leaves_run ha h.first h.failures
  obtain ⟨hreport', hsecond⟩ := leaves_run hb (hfirst.declares h.distinct h.second) hfirst.failures
  exact ⟨a, b, ha, rfl, rfl, hb, rfl, rfl, hreport, hreport', hfirst, hsecond⟩

/-- **Whose rights there are after two passes.**  Both passes succeed.  The shipper
    that came first has a binding for its own account; the other one has such a
    binding exactly if the joined names differ. -/
theorem bound_second_iff (h : OnlyDeclares first second ns name ns' name' w.store) :
    (∃ report, ((run first).run w).1 = .ok report)
      ∧ (∃ report, ((run second).run ((run first).run w).2).1 = .ok report)
      ∧ Bound ns name ((run second).run ((run first).run w).2).2.store
      ∧ (Bound ns' name' ((run second).run ((run first).run w).2).2.store
        ↔ Naming.clusterScoped ns name ≠ Naming.clusterScoped ns' name') := by
  have hnone := h.no_binding
  obtain ⟨a, b, ha, rfl, rfl, hb, rfl, rfl, hreport, hreport', hfirst, hsecond⟩ := h.leaves
  refine ⟨hreport, hreport', bound_first ha hb hfirst hsecond hnone, fun hbound hnames => ?_,
    bound_second ha hb hfirst hsecond hnone⟩
  exact not_bound_second ha hb hfirst hsecond hnone h.distinct hnames hbound

/-- Shippers of the same name, in different namespaces, both have their rights. -/
theorem bound_of_same_name (h : OnlyDeclares first second ns name ns' name w.store) :
    Bound ns name ((run second).run ((run first).run w).2).2.store
      ∧ Bound ns' name ((run second).run ((run first).run w).2).2.store := by
  have hnone := h.no_binding
  have hnames : Naming.clusterScoped ns name ≠ Naming.clusterScoped ns' name :=
    fun hnames => h.distinct (by rw [Naming.ns_eq_of_clusterScoped hnames])
  obtain ⟨a, b, ha, rfl, rfl, hb, rfl, hname, -, -, hfirst, hsecond⟩ := h.leaves
  refine ⟨bound_first ha hb hfirst hsecond hnone, ?_⟩
  rw [← hname] at hnames ⊢
  exact bound_second ha hb hfirst hsecond hnone (hname ▸ hnames)

end Two

/-! ## §6. Shippers that ask for one name -/

/-- A label: up to 63 small letters, digits and hyphens, with no hyphen at its
    ends. -/
def isLabel (text : String) : Bool :=
  let characters := text.toList
  0 < characters.length && characters.length ≤ 63
    && characters.all (fun c => c.isLower || c.isDigit || c == '-')
    && characters.head? != some '-' && characters.getLast? != some '-'

/-- A shipper, as it is stored. -/
def storedShipper (ns name uid : String) : Json :=
  .ofFields [
    ("metadata", .ofFields [
      ("name", .string name), ("namespace", .string ns), ("uid", .string uid)]),
    ("spec", .ofFields [
      ("esCluster", .ofFields [
        ("clusterName", .string "logs"), ("esVersion", .string ""),
        ("host", .string "logs-master")])])]

/-- A declared shipper. -/
def shipper (ns name uid : String) : LoggingOperator.Fluentd where
  metadata := { ns := some ns, name := some name, uid := some uid }
  spec := { cluster := { host := "logs-master", clusterName := "logs", version := "" } }

/-- A store that holds two shippers and nothing else. -/
def shippersWorld (ns name ns' name' : String) : World where
  store := {
    objects := [
      (declaredKey ns name, storedShipper ns name "7f3a"),
      (declaredKey ns' name', storedShipper ns' name' "9c01")]
    stamps := fun version => ⟨toString version, "2024-01-01T00:00:00Z"⟩ }

theorem onlyDeclares_shippersWorld {ns name ns' name' : String}
    (h : (ns, name) ≠ (ns', name')) :
    OnlyDeclares (shipper ns name "7f3a") (shipper ns' name' "9c01") ns name ns' name'
      (shippersWorld ns name ns' name').store where
  first := by
    refine ⟨⟨storedShipper ns name "7f3a", ?_, rfl⟩, rfl, rfl, _, rfl⟩
    exact Keyed.get?_cons .. |>.trans (if_pos rfl)
  second := by
    have hkey : declaredKey ns name ≠ declaredKey ns' name' := fun hkey =>
      h (Prod.ext (congrArg StoreKey.ns hkey) (congrArg StoreKey.name hkey))
    refine ⟨⟨storedShipper ns' name' "9c01", ?_, rfl⟩, rfl, rfl, _, rfl⟩
    show Keyed.get? _ _ = _
    simp [shippersWorld, Keyed.get?_cons, hkey]
  distinct := h
  alone := by
    intro key object hfound
    have hmem := Keyed.mem_of_get? hfound
    rcases List.mem_cons.1 hmem with hmem | hmem
    · exact Or.inl (congrArg Prod.fst hmem)
    · exact Or.inr (congrArg Prod.fst (List.mem_singleton.1 hmem))
  failures := rfl

/-- **Two shippers, of which one never gets its rights**: `b-c` in `a` and `c` in
    `a-b` both ask for `a-b-c`.  Passes over both succeed. -/
theorem unbound_of_joined_names :
    isLabel "a" ∧ isLabel "b-c" ∧ isLabel "a-b" ∧ isLabel "c"
      ∧ ∃ (first second : LoggingOperator.Fluentd) (w : World),
        OnlyDeclares first second "a" "b-c" "a-b" "c" w.store
          ∧ (∃ report, ((run first).run w).1 = .ok report)
          ∧ (∃ report, ((run second).run ((run first).run w).2).1 = .ok report)
          ∧ ¬ Bound "a-b" "c" ((run second).run ((run first).run w).2).2.store := by
  refine ⟨by decide, by decide, by decide, by decide, shipper "a" "b-c" "7f3a",
    shipper "a-b" "c" "9c01", shippersWorld "a" "b-c" "a-b" "c", ?_⟩
  have h := onlyDeclares_shippersWorld (by decide : ("a", "b-c") ≠ ("a-b", "c"))
  have hnone := h.no_binding
  obtain ⟨a, b, ha, hans, haname, hb, hbns, hbname, hreport, hreport', hfirst, hsecond⟩ := h.leaves
  refine ⟨h, hreport, hreport', ?_⟩
  have hunbound := not_bound_second ha hb hfirst hsecond hnone
  rw [hans, haname, hbns, hbname] at hunbound
  exact hunbound h.distinct (by decide)

/-- Names with hyphens in them do no harm as long as the joined names differ. -/
theorem bound_second_iff_shippers :
    ∃ (first second : LoggingOperator.Fluentd) (w : World),
      OnlyDeclares first second "a" "b-c" "a-b" "c-d" w.store
        ∧ (∃ report, ((run first).run w).1 = .ok report)
        ∧ (∃ report, ((run second).run ((run first).run w).2).1 = .ok report)
        ∧ Bound "a" "b-c" ((run second).run ((run first).run w).2).2.store
        ∧ Bound "a-b" "c-d" ((run second).run ((run first).run w).2).2.store := by
  have h := onlyDeclares_shippersWorld (by decide : ("a", "b-c") ≠ ("a-b", "c-d"))
  obtain ⟨hreport, hreport', hfirst, hsecond⟩ := bound_second_iff h
  exact ⟨_, _, _, h, hreport, hreport', hfirst, hsecond.2 (by decide)⟩

end Pass.Fluentd

end LoggingOperator
