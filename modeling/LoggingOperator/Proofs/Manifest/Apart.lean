/-
  LoggingOperator.Proofs.Manifest.Apart — CLUSTERS THAT KEEP APART.

  The objects of a search cluster are named by what the cluster is called and
  an ending.  A cluster may be called like an object of another one, as
  `a-master` beside `a`, but no two objects are: of the endings of one kind,
  none is itself the end of another one (`Part.eq_of_suffix`), so a name tells
  the cluster and the object (`Part.of_key_eq`).

  The pods of a role are labelled with the name of its workload, so a service
  selects the pods of its own role and no other (`selects_iff`).
-/
import LoggingOperator.Proofs.Manifest.Elasticsearch

namespace LoggingOperator

/-- The pods of a workload that a service sends traffic to: all of them, if they
    carry the labels that it selects and are in its namespace. -/
def Service.Selects (service : Service) (workload : StatefulSet) : Prop :=
  service.metadata.ns = workload.metadata.ns
    ∧ ∀ key value, service.selector.get? key = some value →
      workload.template.labels.get? key = some value

namespace Manifest.Elasticsearch

/-! ## §1. Names -/

deriving instance DecidableEq for Part

namespace Part

variable {owner owner' : Owner} {part part' : Part}

/-- The kind of the object. -/
def kind : Part → Kind
  | .password | .certificate | .token => .secret
  | .workload _ => .statefulSet
  | .routable _ | .headless _ => .service

theorem kind_goal (owner : Owner) (part : Part) : (part.goal owner).kind = part.kind := by
  cases part <;> rfl

/-- Every object that a search cluster may ask for. -/
def all : List Part :=
  [.password, .certificate, .token] ++ Role.all.flatMap fun role =>
    [.workload role, .routable role, .headless role]

theorem mem_all (part : Part) : part ∈ all := by
  cases part with
  | password | certificate | token => decide
  | workload role | routable role | headless role => cases role <;> decide

/-- **Of the endings of one kind, none is the end of another one.** -/
theorem eq_of_suffix (hkind : part.kind = part'.kind)
    (h : part.ending.toList <:+ part'.ending.toList) : part = part' := by
  have htable : ∀ part ∈ all, ∀ part' ∈ all, part.kind = part'.kind →
      part.ending.toList <:+ part'.ending.toList → part = part' := by decide +kernel
  exact htable part part.mem_all part' part'.mem_all hkind h

/-- A name of an object tells what the cluster is called, and which object it is. -/
theorem of_name_eq {a b : String} (hkind : part.kind = part'.kind)
    (h : a ++ part.ending = b ++ part'.ending) : a = b ∧ part = part' := by
  have hlist : a.toList ++ part.ending.toList = b.toList ++ part'.ending.toList := by
    rw [← String.toList_append, h, String.toList_append]
  -- Both endings end the same name, so one of them ends the other.
  obtain rfl : part = part' := by
    rcases List.suffix_or_suffix_of_suffix (List.suffix_append a.toList part.ending.toList)
      (hlist ▸ List.suffix_append b.toList part'.ending.toList) with hsuffix | hsuffix
    · exact eq_of_suffix hkind hsuffix
    · exact (eq_of_suffix hkind.symm hsuffix).symm
  exact ⟨(String.append_left_inj _).1 h, rfl⟩

/-- **A key tells the cluster and the object.** -/
theorem of_key_eq (h : (part.goal owner).key = (part'.goal owner').key) :
    owner.ns = owner'.ns ∧ owner.name = owner'.name ∧ part = part' := by
  have hkind : (part.goal owner).kind = (part'.goal owner').kind := congrArg StoreKey.kind h
  have hname : (part.goal owner).name = (part'.goal owner').name := congrArg StoreKey.name h
  have hns : (part.goal owner).key.ns = (part'.goal owner').key.ns := congrArg StoreKey.ns h
  rw [kind_goal, kind_goal] at hkind
  rw [name_goal, name_goal] at hname
  obtain ⟨hid, rfl⟩ := of_name_eq hkind hname
  refine ⟨?_, hid, rfl⟩
  -- Every object is in the namespace of its owner.
  have hplaced : ∀ owner : Owner, (part.goal owner).key.ns = owner.ns := by
    intro owner
    cases part <;> rfl
  rwa [hplaced, hplaced] at hns

end Part

/-! ## §2. Labels -/

section Labels

variable {es es' : LoggingOperator.Elasticsearch} {role role' : Role}

/-- Labels are found under other labels only if these are of the same role. -/
theorem roleLabels_le_iff {id id' : String} :
    (∀ key value, (roleLabels id role).get? key = some value →
        (roleLabels id' role').get? key = some value)
      ↔ id = id' ∧ role = role' := by
  have hlabels : ∀ (id : String) (role : Role) (key : String), (roleLabels id role).get? key
      = if "app" = key then some (Naming.workload id role)
        else if "role" = key then some role.word else none := by
    intro id role key
    simp [roleLabels, StringMap.get?, StringMap.ofList, Keyed.get?_ofList, Keyed.get?_cons]
  constructor
  · intro h
    have happ := h "app" _ (by rw [hlabels, if_pos rfl])
    rw [hlabels, if_pos rfl, Option.some.injEq] at happ
    have hname : id ++ (Part.workload role).ending = id' ++ (Part.workload role').ending := by
      simpa only [Naming.workload, Part.ending, toString, String.append_assoc] using happ.symm
    obtain ⟨hid, hpart⟩ := Part.of_name_eq (by rfl) hname
    exact ⟨hid, Part.workload.inj hpart⟩
  · rintro ⟨rfl, rfl⟩ key value h
    exact h

/-- The services of a role select the pods that are labelled for it. -/
theorem selector_services {built : Service × Service} (h : services es role = .ok built) :
    ∃ owner, Owner.ofMetadata .elasticsearch es.metadata = .ok owner
      ∧ ∀ service, service = built.1 ∨ service = built.2 →
        service.metadata.ns = some owner.ns ∧ service.selector = roleLabels owner.name role := by
  unfold services at h
  cases howner : Owner.ofMetadata .elasticsearch es.metadata with
  | error e =>
    rw [howner] at h
    cases h
  | ok owner =>
    rw [howner] at h
    cases h
    refine ⟨owner, rfl, ?_⟩
    rintro service (rfl | rfl)
    · exact ⟨rfl, rfl⟩
    · exact ⟨rfl, rfl⟩

/-- The pods of a role are labelled for it. -/
theorem labels_statefulSet {built : StatefulSet} (h : statefulSet es role = .ok built) :
    ∃ owner, Owner.ofMetadata .elasticsearch es.metadata = .ok owner
      ∧ built.metadata.ns = some owner.ns
      ∧ built.template.labels = roleLabels owner.name role := by
  obtain ⟨owner, _, _, _, _, howner, -, -, hmetadata, htemplate, -, -⟩ := exists_of_statefulSet h
  exact ⟨owner, howner, by rw [hmetadata]; rfl, by rw [htemplate]⟩

/-- **A service selects the pods of its own role, and no others**: not those of
    another role, and not those of another cluster, whatever it is called. -/
theorem selects_iff {built : Service × Service} {workload : StatefulSet}
    (hservices : services es role = .ok built) (hworkload : statefulSet es' role' = .ok workload)
    {service : Service} (hservice : service = built.1 ∨ service = built.2) :
    service.Selects workload
      ↔ es.metadata.ns = es'.metadata.ns ∧ es.metadata.name = es'.metadata.name ∧ role = role' := by
  obtain ⟨owner, howner, hselects⟩ := selector_services hservices
  obtain ⟨hplaced, hselector⟩ := hselects service hservice
  obtain ⟨owner', howner', hplaced', hlabels⟩ := labels_statefulSet hworkload
  obtain ⟨hns, hname⟩ := Owner.of_ofMetadata howner
  obtain ⟨hns', hname'⟩ := Owner.of_ofMetadata howner'
  rw [Service.Selects, hplaced, hplaced', hselector, hlabels, roleLabels_le_iff, hns, hns', hname,
    hname', Option.some.injEq, Option.some.injEq]

end Labels

end Manifest.Elasticsearch

end LoggingOperator
