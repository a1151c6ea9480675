/-
  LoggingOperator.Proofs.Pass.Status — HOW A PASS ENDS.

  A pass works towards its plan and then writes the status of its declaration.
  It ends in one of two ways (`Ends`): somewhere on the way a call was made to
  fail, or the status was written.  In the second case every goal is settled if
  nothing failed.

  The status write carries the declaration as it was read.  Nothing else in a
  pass touches the declaration, so the write never loses a race unless it is
  made to (`Restatable.fresh`).
-/
import LoggingOperator.Pass.Status
import LoggingOperator.Proofs.Declaration.Status
import LoggingOperator.Proofs.Pass.Leads

namespace LoggingOperator.Pass

open Json Store
open Program (World Environment Runs)
open Management (Cluster)

variable {α β : Type}

/-! ## §1. Writes of a status -/

/-- The declaration as it was read can be sent with any status, for the object
    that it was read from. -/
structure Restatable (own : StoreKey) (current declared : Json) : Prop where
  named : ∀ status, (declared.set "status" status).name = .ok own.name
  placed : ∀ status, StoreKey.of own.kind (declared.set "status" status).namespace? own.name = own
  fresh : ∀ status, checkVersion (declared.set "status" status) current = .ok ()
  carries : ∀ status, (declared.set "status" status).get? "status" = some status

section Sent

variable {Spec Status : Type} {dk : DeclaredKind} {writeSpec : Spec → Json}
  {write : Status → Json} (d : Declaration Spec Status) (status : Json)

/-- A status leaves the metadata of a declaration alone. -/
theorem metaString?_sent (field : String) :
    ((Declaration.toJson dk writeSpec write d).set "status" status).metaString? field
      = (d.metadata.toJson.get? field).bind string? := by
  have hget : ((Declaration.toJson dk writeSpec write d).set "status" status).get? "metadata"
      = some d.metadata.toJson := by
    rw [Declaration.toJson, ofFields, get?_set, if_neg (by decide)]
    show Keyed.get? "metadata" (Keyed.ofList _) = _
    simp [Keyed.get?_append]
  rw [metaString?, hget, Option.bind_some]

/-- A declaration is sent under its name. -/
theorem name_sent {name : String} (hname : d.metadata.name = some name) :
    ((Declaration.toJson dk writeSpec write d).set "status" status).name = .ok name := by
  rw [Json.name, metaString?_sent, Metadata.get?_name, hname]
  rfl

/-- A declaration is sent to its namespace. -/
theorem namespace?_sent {ns : String} (hns : d.metadata.ns = some ns) :
    ((Declaration.toJson dk writeSpec write d).set "status" status).namespace? = some ns := by
  rw [namespace?, metaString?_sent, Metadata.get?_namespace, hns]
  rfl

/-- A declaration is sent with the version that it was read with. -/
theorem resourceVersion_sent :
    ((Declaration.toJson dk writeSpec write d).set "status" status).metaString? "resourceVersion"
      = d.metadata.resourceVersion := by
  rw [metaString?_sent, Metadata.get?_resourceVersion]
  cases d.metadata.resourceVersion <;> rfl

/-- A declaration is sent with the status. -/
theorem status_sent :
    ((Declaration.toJson dk writeSpec write d).set "status" status).get? "status"
      = some status := by
  rw [Declaration.toJson, ofFields, get?_set, if_pos rfl]

end Sent

/-- What was read from an object can be sent back with a status. -/
theorem restatable_of_ofJson? {Spec Status : Type} {dk : DeclaredKind} {kind : Kind}
    {readSpec : Json → Option Spec} {readStatus : Json → Option Status}
    {writeSpec : Spec → Json} {write : Status → Json} {current : Json}
    {d : Declaration Spec Status} {ns name : String}
    (h : Declaration.ofJson? readSpec (Declaration.withStatus readStatus) current = some d)
    (hns : d.metadata.ns = some ns) (hname : d.metadata.name = some name) :
    Restatable (StoreKey.of kind (some ns) name) current
      (Declaration.toJson dk writeSpec write d) := by
  obtain ⟨fields, metadata, spec, rfl, hmetadata, hm, -, -⟩ := Declaration.parts_of_ofJson? h
  refine ⟨fun status => name_sent d status hname, fun status => ?_, fun status => ?_,
    status_sent d⟩
  · rw [namespace?_sent d status hns]
    rfl
  · have hversion : metaString? "resourceVersion" (.object fields) = d.metadata.resourceVersion := by
      rw [metaString?, hmetadata]
      exact Metadata.resourceVersion_ofJson? hm
    rw [checkVersion, resourceVersion_sent, hversion]
    cases d.metadata.resourceVersion with
    | none => rfl
    | some version =>
      show (if version = version then _ else _) = _
      rw [if_pos rfl]

/-! ## §2. The two ends of a pass -/

/-- How a pass over the declaration under the key `own` ends. -/
inductive Ends (env : Environment) (plan : Plan) (own : StoreKey) (isStatus : Json → Prop)
    (c : Cluster) (s : Store) : Except PassError Bool → Store → Prop
  /-- A call was made to fail. -/
  | stopped {r : Except PassError Bool} {between s' : Store} (unfair : ¬ Fair env c)
    (advanced : Advances plan s between) (same : s'.objects = between.objects) :
    Ends env plan own isStatus c s r s'
  /-- The status was written. -/
  | finished {between s' : Store} {current status : Json} {version : String}
    (advanced : Advances plan s between) (settled : Fair env c → AllSettled plan between)
    (found : s.object? own = some current) (written : isStatus status)
    (stored : s'.objects = Keyed.insert own
      (setMeta "resourceVersion" (.string version) (current.set "status" status)) between.objects)
    (noted : s'.writes = between.writes ++ [⟨.updateStatus, own.kind, own.name⟩]) :
    Ends env plan own isStatus c s (.ok false) s'

/-- The part of a pass leads to its end. -/
def Closes (env : Environment) (plan : Plan) (own : StoreKey) (isStatus : Json → Prop)
    (p : Pass α) (w : World) (read : α → Bool) : Prop :=
  ∀ r w', Runs env p w r w' → Ends env plan own isStatus w.cluster w.store (r.map read) w'.store

variable {env : Environment} {plan : Plan} {own : StoreKey} {isStatus : Json → Prop} {w : World}

/-- Work before the end of a pass belongs to the pass. -/
theorem Ends.after {c c' : Cluster} {s t s' : Store} {r : Except PassError Bool}
    (hplan : plan.Sound own) (hadvances : Advances plan s t) (hfair : Fair env c' ↔ Fair env c)
    (h : Ends env plan own isStatus c' t r s') : Ends env plan own isStatus c s r s' := by
  cases h with
  | stopped unfair advanced same =>
    exact .stopped (fun h => unfair (hfair.2 h)) (hadvances.trans advanced) same
  | finished advanced settled found written stored noted =>
    rw [hadvances.own_eq hplan] at found
    exact .finished (hadvances.trans advanced) (fun h => settled (hfair.2 h)) found written stored noted

/-- A part of a pass, and then its end. -/
theorem closes_bind (hplan : plan.Sound own) {p : Pass α} {f : α → Pass β} {read : β → Bool}
    {Post : α → World → Prop} (hp : Leads env plan p w Post)
    (hf : ∀ a between, Advances plan w.store between.store →
      (Fair env between.cluster ↔ Fair env w.cluster) → Post a between →
      Closes env plan own isStatus (f a) between read) :
    Closes env plan own isStatus (p.bind f) w read := by
  intro r w' hrun
  rcases Program.runs_bind_iff.1 hrun with ⟨e, he, rfl⟩ | ⟨a, between, ha, hrest⟩
  · obtain ⟨hadvances, -, -, herror⟩ := hp _ _ he
    exact .stopped (herror e rfl) hadvances rfl
  · obtain ⟨hadvances, hfair, hpost, -⟩ := hp _ _ ha
    exact (hf a between hadvances hfair (hpost a rfl) _ _ hrest).after hplan hadvances hfair

theorem closes_ofBuild {built : Except BuildError α} {a : α} {f : α → Pass β} {read : β → Bool}
    (h : built = .ok a) (hf : Closes env plan own isStatus (f a) w read) :
    Closes env plan own isStatus ((ofBuild built).bind f) w read := by
  subst h
  exact hf

/-- The report is put together at the end. -/
theorem closes_map {p : Pass α} {f : α → β} {read : α → Bool} {read' : β → Bool}
    (hp : Closes env plan own isStatus p w read) (hread : ∀ a, read' (f a) = read a) :
    Closes env plan own isStatus (p.bind fun a => .done (f a)) w read' := by
  intro r w' hrun
  rcases Program.runs_bind_iff.1 hrun with ⟨e, he, rfl⟩ | ⟨a, between, ha, hrest⟩
  · exact hp _ _ he
  · obtain ⟨rfl, rfl⟩ := Program.runs_done_iff.1 hrest
    have hends := hp _ _ ha
    simp only [Except.map, hread] at hends ⊢
    exact hends

/-- **The end of a pass**: the status is written, unless that is made to fail. -/
theorem closes_writeStatus {current declared status : Json}
    (hdeclared : Restatable own current declared) (hfound : w.store.object? own = some current)
    (hsettled : Fair env w.cluster → AllSettled plan w.store) (hstatus : isStatus status) :
    Closes env plan own isStatus (writeStatus own.kind declared status) w id := by
  intro r w' hrun
  have hcall : (StoreCall.replaceStatus own.kind (declared.set "status" status)).name
      = .ok own.name := hdeclared.named status
  rcases (Program.runs_store_iff hcall).1 hrun with ⟨e, he, hrest⟩ | hrest
  -- Sent in vain, the status changes nothing, whether the pass goes on or not.
  · have hunfair : ¬ Fair env w.cluster := fun hfair => hfair.quiet e he
    have hsame : w'.store.objects = w.store.objects := by
      dsimp only at hrest
      split at hrest
      · obtain ⟨-, rfl⟩ := Program.runs_done_iff.1 hrest
        rfl
      · obtain ⟨-, rfl⟩ := Program.runs_fail_iff.1 hrest
        rfl
    exact .stopped hunfair (.refl plan w.store) hsame
  -- Nobody wrote the declaration since it was read, so the version is accepted.
  · have hact : (w.store.noted (.replaceStatus own.kind (declared.set "status" status))
        own.name).act (.replaceStatus own.kind (declared.set "status" status))
        (StoreKey.of (StoreCall.replaceStatus own.kind (declared.set "status" status)).kind
          (StoreCall.replaceStatus own.kind (declared.set "status" status)).ns? own.name)
        = (.ok (setMeta "resourceVersion" w.store.bump.1 (current.set "status" status)),
          ((w.store.noted (.replaceStatus own.kind (declared.set "status" status)) own.name).bump.2.put
            own (setMeta "resourceVersion" w.store.bump.1 (current.set "status" status)))) := by
      show Store.replaceStatus own.kind
        (StoreKey.of own.kind (declared.set "status" status).namespace? own.name) _ _ = _
      rw [hdeclared.placed]
      simp only [Store.replaceStatus, object?_noted, hfound, hdeclared.fresh, hdeclared.carries]
      rfl
    rw [hact] at hrest
    obtain ⟨rfl, rfl⟩ := Program.runs_done_iff.1 hrest
    refine .finished (.refl plan w.store) hsettled
      hfound hstatus rfl ?_
    show (w.store.noted _ own.name).writes = _
    rw [writes_noted, if_pos (by rfl)]
    rfl

end LoggingOperator.Pass
