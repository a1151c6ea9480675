/-
  LoggingOperator.Proofs.Convergence.Others — WHAT BELONGS TO OTHERS SURVIVES.

  An object is not the operator's alone.  The platform gives it a uid and a
  time of creation and notes who manages which field, controllers report a
  status, others annotate it, and a service gets addresses.  However often and
  with whatever desired objects it is converged, all of this stays.

  A pass over an object that is there ends in one of three ways (`Ends`): it
  fails or skips, and then no object changes at all, or it updates the one
  object.  An update keeps each of these fields by a mechanism of its own:
  `prepareUpdate` sends the stored one, or the store does not let it go.  What
  one update keeps, any number of passes keep (`survives_attempts`).

  `others_survive` puts together what is known of the last of any number of
  passes: what survived them all, that the version changes exactly with an
  update and then to one that was never used, what is recorded, and that no
  other object changed.
-/
import LoggingOperator.Proofs.Convergence.Prepared
import LoggingOperator.Proofs.Json.Exact
import LoggingOperator.Proofs.Store.Reachable

namespace LoggingOperator.Convergence

open Json Store
open Program (World Environment Runs wild)

/-! ## §1. A pass over an object that is there -/

/-- How a pass over a stored object ends. -/
inductive Ends (kind : Kind) (key : StoreKey) (desired current : Json) (s : Store) :
    Except StoreError Outcome → Store → Prop
  /-- It was refused, or a call was made to fail. -/
  | failed {e : StoreError} {s' : Store} (same : s'.objects = s.objects)
    (version : s'.version = s.version) : Ends kind key desired current s (.error e) s'
  | skipped {s' : Store} (same : s'.objects = s.objects) (version : s'.version = s.version) :
    Ends kind key desired current s (.ok ⟨kind, key.name, .skip⟩) s'
  | updated {object : Json} {s' : Store} (sent : prepareUpdate kind desired current = .ok object)
    (stored : s'.objects = Keyed.insert key
      (replaced kind current object (.string (versionText (s.version + 1)))) s.objects)
    (version : s'.version = s.version + 1) :
    Ends kind key desired current s (.ok ⟨kind, key.name, .update⟩) s'

section

variable {env : Environment} {kind : Kind} {desired current : Json} {name : String}
  {w w' : World} {r : Except StoreError Outcome}

/-- What is decided on an object that is there is to skip it or to update it. -/
theorem ends_of_settle (hname : desired.name = .ok name)
    (hfound : w.store.object? (keyOf kind desired name) = some current)
    (h : Runs env (settle kind name desired (some current)) w r w') :
    Ends kind (keyOf kind desired name) desired current w.store r w'.store := by
  unfold settle writeFor at h
  cases hdecide : decide kind desired (some current) with
  | create => exact absurd hdecide (decide_some_ne_create kind desired current)
  | skip =>
    simp only [hdecide] at h
    obtain ⟨rfl, rfl⟩ := Program.runs_done_iff.1 h
    exact .skipped rfl rfl
  | update =>
    simp only [hdecide] at h
    cases hsent : prepareUpdate kind desired current with
    | error e =>
      rw [hsent] at h
      obtain ⟨rfl, rfl⟩ := Program.runs_fail_iff.1 h
      exact .failed rfl rfl
    | ok object =>
      rw [hsent] at h
      have hcall : (StoreCall.update kind object).name = .ok name :=
        (name_prepareUpdate hsent).trans hname
      rcases (Program.runs_store_iff hcall).1 h with ⟨e, -, hrest⟩ | hrest
      · obtain ⟨rfl, rfl⟩ := Program.runs_fail_iff.1 hrest
        exact .failed rfl rfl
      · -- The update carries the version that was read, so it is carried out.
        have hkey : StoreKey.of (StoreCall.update kind object).kind
            (StoreCall.update kind object).ns? name = keyOf kind desired name := by
          show StoreKey.of kind object.namespace? name = _
          rw [namespace?_prepareUpdate hsent]
          rfl
        have hpresent : (w.store.noted (.update kind object) name).object? (keyOf kind desired name)
            = some current := hfound
        have hact := @update_of_present kind _ _ _ _ hpresent (checkVersion_prepareUpdate hsent)
        rw [hkey, Store.act, hact] at hrest
        obtain ⟨rfl, rfl⟩ := Program.runs_done_iff.1 hrest
        exact .updated hsent rfl rfl

/-- **Whatever happens to its calls, a pass over an object that is there ends in one
    of these ways.** -/
theorem ends_of_runs (hname : desired.name = .ok name)
    (hfound : w.store.object? (keyOf kind desired name) = some current)
    (h : Runs env (converge kind desired) w r w') :
    Ends kind (keyOf kind desired name) desired current w.store r w'.store := by
  unfold converge at h
  simp only [hname] at h
  have hcall : (StoreCall.get kind name desired.namespace?).name = .ok name := rfl
  rcases (Program.runs_store_iff hcall).1 h with ⟨e, -, hrest⟩ | hrest
  · cases hmissing : e.isNotFound with
    | false =>
      simp only [stored?, hmissing, Bool.false_eq_true, if_false] at hrest
      obtain ⟨rfl, rfl⟩ := Program.runs_fail_iff.1 hrest
      exact .failed rfl rfl
    | true =>
      -- Told that there is no object, the pass tries to create it, in vain.
      simp only [stored?, hmissing, if_true] at hrest
      obtain ⟨⟨e', rfl⟩, hobjects, hversion⟩ := runs_settle_of_present
        (w := { w with store := w.store.noted (.get kind name desired.namespace?) name })
        hname hfound hrest
      exact .failed hobjects hversion
  · have hread : (w.store.noted (.get kind name desired.namespace?) name).act
        (.get kind name desired.namespace?) (keyOf kind desired name)
          = (.ok current, w.store.noted (.get kind name desired.namespace?) name) := by
      show (Store.get kind (keyOf kind desired name) w.store, _) = _
      rw [Store.get, hfound]
    rw [show StoreKey.of (StoreCall.get kind name desired.namespace?).kind
      (StoreCall.get kind name desired.namespace?).ns? name = keyOf kind desired name from rfl,
      hread] at hrest
    have hends := ends_of_settle
      (w := { w with store := w.store.noted (.get kind name desired.namespace?) name })
      hname hfound hrest
    cases hends with
    | failed same version => exact .failed same version
    | skipped same version => exact .skipped same version
    | updated sent stored version => exact .updated sent stored version

end

/-! ## §2. What an update keeps -/

/-- Metadata that the platform keeps of an object. -/
def identityFields : List String :=
  ["uid", "creationTimestamp", "managedFields"]

/-- The desired object has a spec to put addresses in. -/
def HasSpec (desired : Json) : Prop :=
  ∃ spec, desired.get? "spec" = some (.object spec)

/-- What is still there of an object after passes with these desired objects. -/
structure Survives (kind : Kind) (desireds : List Json) (before after : Json) : Prop where
  metadata : after.HasMetadata
  identity : ∀ k ∈ identityFields, ∀ x, before.metaField? k = some x → after.metaField? k = some x
  status : after.get? "status" = before.get? "status"
  addresses : kind = .service → (∀ desired ∈ desireds, HasSpec desired) →
    ∀ k ∈ ["clusterIP", "clusterIPs"], ∀ x,
      before.specField? k = some x → after.specField? k = some x

/-- Annotations that were not set stay as they are. -/
def Unset (desireds : List Json) (before after : Json) : Prop :=
  ∀ a x, a ≠ lastAppliedKey → (∀ desired ∈ desireds, annotated? desired a = none) →
    annotated? before a = some x → annotated? after a = some x

theorem walk_annotationsPath (v : Json) : v.walk annotationsPath = v.metaField? "annotations" := by
  rw [annotationsPath, walk_key, metaField?]
  congr 1
  funext metadata
  rw [walk_key]
  cases metadata.get? "annotations" <;> rfl

section

variable {kind : Kind} {desired current object : Json} {name version : String}

theorem annotated?_replaced (h : object.HasMetadata) (a : String) :
    annotated? (replaced kind current object (.string version)) a = annotated? object a := by
  rw [annotated?_eq, annotated?_eq, walk_annotationsPath, walk_annotationsPath,
    metaField?_replaced h (by decide), if_neg (by decide)]

/-- **One update keeps what belongs to others.** -/
theorem survives_replaced (hname : desired.name = .ok name)
    (hsent : prepareUpdate kind desired current = .ok object) :
    Survives kind [desired] current (replaced kind current object (.string version)) := by
  have hmetadata : object.HasMetadata :=
    hasMetadata_of_name ((name_prepareUpdate hsent).trans hname)
  refine ⟨hasMetadata_replaced hmetadata _ _ _, ?_, get?_status_replaced hmetadata, ?_⟩
  · intro k hk x hx
    have hcarries : ∀ k ∈ identityFields, k ∈ carriedFields := by decide
    have hversion : k ≠ "resourceVersion" := by
      rintro rfl
      exact absurd hk (by decide)
    -- Kept by the store or not, the stored field is also what is sent.
    rw [metaField?_replaced hmetadata hversion, hx, metaField?_carried hsent (hcarries k hk) hx]
    split <;> rfl
  · rintro rfl hspecs k hk x hx
    obtain ⟨spec, hspec⟩ := hspecs desired List.mem_cons_self
    have haddress : k = "clusterIP" ∨ k = "clusterIPs" := by simpa using hk
    rw [specField?_replaced haddress]
    exact specField?_carried hsent hspec haddress hx

theorem unset_replaced (hname : desired.name = .ok name)
    (hsent : prepareUpdate kind desired current = .ok object) :
    Unset [desired] current (replaced kind current object (.string version)) := by
  intro a x ha hunset hx
  have hmetadata : object.HasMetadata :=
    hasMetadata_of_name ((name_prepareUpdate hsent).trans hname)
  rw [annotated?_replaced hmetadata, annotated?_prepareUpdate hsent, if_neg ha,
    hunset desired List.mem_cons_self, hx]
  rfl

/-- The record that an update leaves is read back as what is desired. -/
theorem lastApplied?_replaced (hname : desired.name = .ok name)
    (hsent : prepareUpdate kind desired current = .ok object) (hd : desired.Canonical)
    (hexact : desired.Exact Document.maxDepth) :
    lastApplied? (replaced kind current object (.string version)) = some desired := by
  have hmetadata : object.HasMetadata :=
    hasMetadata_of_name ((name_prepareUpdate hsent).trans hname)
  rw [lastApplied?_eq, annotated?_replaced hmetadata, annotated?_prepareUpdate hsent, if_pos rfl]
  exact read?_text hd hexact

end

namespace Survives

variable {kind : Kind} {ds ds' : List Json} {u v w : Json}

theorem refl (h : v.HasMetadata) (kind : Kind) (ds : List Json) : Survives kind ds v v :=
  ⟨h, fun _ _ _ hx => hx, rfl, fun _ _ _ _ _ hx => hx⟩

theorem trans (h : Survives kind ds u v) (h' : Survives kind ds' v w) :
    Survives kind (ds ++ ds') u w := by
  refine ⟨h'.metadata, fun k hk x hx => h'.identity k hk x (h.identity k hk x hx),
    h'.status.trans h.status, fun hkind hspecs k hk x hx => ?_⟩
  refine h'.addresses hkind (fun d hd => hspecs d (List.mem_append_right ds hd)) k hk x ?_
  exact h.addresses hkind (fun d hd => hspecs d (List.mem_append_left ds' hd)) k hk x hx

end Survives

theorem Unset.trans {ds ds' : List Json} {u v w : Json} (h : Unset ds u v) (h' : Unset ds' v w) :
    Unset (ds ++ ds') u w := by
  intro a x ha hunset hx
  refine h' a x ha (fun d hd => hunset d (List.mem_append_right ds hd)) ?_
  exact h a x ha (fun d hd => hunset d (List.mem_append_left ds' hd)) hx

/-! ## §3. One pass after the other -/

/-- A pass with a desired object, before which more calls are made to fail. -/
structure Attempt where
  desired : Json
  failures : List (StoreOp × Kind × StoreError) := []

namespace Attempt

/-- How a pass ends, and what it leaves. -/
def run (kind : Kind) (a : Attempt) (w : World) : Except StoreError Outcome × World :=
  (converge kind a.desired).run
    { w with store := { w.store with failures := w.store.failures ++ a.failures } }

/-- What passes leave, one after the other. -/
def runAll (kind : Kind) (attempts : List Attempt) (w : World) : World :=
  attempts.foldl (fun w a => (a.run kind w).2) w

/-- The desired object is one for this key. -/
def Addresses (kind : Kind) (key : StoreKey) (a : Attempt) : Prop :=
  ∃ name, a.desired.name = .ok name ∧ keyOf kind a.desired name = key

variable {kind : Kind} {key : StoreKey} {a : Attempt} {w : World} {current : Json}

theorem leads_run (kind : Kind) (a : Attempt) (w : World) :
    Leads w.store (a.run kind w).2.store :=
  (Leads.prepared w.store.calls (w.store.failures ++ a.failures) .refl).trans
    (Store.leads_run (converge kind a.desired)
      { w with store := { w.store with failures := w.store.failures ++ a.failures } })

/-- **A pass over an object that is there fails, skips or updates it.** -/
theorem ends (hkey : a.Addresses kind key) (hfound : w.store.object? key = some current) :
    Ends kind key a.desired current w.store (a.run kind w).1 (a.run kind w).2.store := by
  obtain ⟨name, hname, rfl⟩ := hkey
  have hruns := Program.runs_run wild (converge kind a.desired)
    (w := { w with store := { w.store with failures := w.store.failures ++ a.failures } })
    (fun _ _ => trivial) (fun _ _ _ => trivial)
  have hends := ends_of_runs hname (w := World.disarm { w with
    store := { w.store with failures := w.store.failures ++ a.failures } }) hfound hruns
  -- The failures that are still pending are of no account.
  generalize hr : ((converge kind a.desired).run
    { w with store := { w.store with failures := w.store.failures ++ a.failures } }).1 = r at hends
  rw [run, hr]
  cases hends with
  | failed same version => exact .failed same version
  | skipped same version => exact .skipped same version
  | updated sent stored version => exact .updated sent stored version

end Attempt

section

variable {kind : Kind} {key : StoreKey} {a : Attempt} {w : World} {current : Json}

/-- What there is under the keys after a pass. -/
theorem object?_attempt (hkey : a.Addresses kind key) (hfound : w.store.object? key = some current)
    (hcurrent : current.HasMetadata) :
    (∀ other, other ≠ key → (a.run kind w).2.store.object? other = w.store.object? other)
      ∧ ∃ after, (a.run kind w).2.store.object? key = some after
        ∧ Survives kind [a.desired] current after ∧ Unset [a.desired] current after := by
  have hends := Attempt.ends hkey hfound
  obtain ⟨name, hname, -⟩ := hkey
  generalize (a.run kind w).1 = r at hends
  cases hends with
  | failed same _ | skipped same _ =>
    exact ⟨fun other _ => object?_congr same other, current, (object?_congr same key).trans hfound,
      .refl hcurrent kind _, fun _ _ _ _ hx => hx⟩
  | updated sent stored _ =>
    have hafter := (object?_of_stored stored key).trans (if_pos rfl)
    refine ⟨fun other hother => ?_, _, hafter, survives_replaced hname sent,
      unset_replaced hname sent⟩
    exact (object?_of_stored stored other).trans (if_neg (Ne.symm hother))

/-- **What belongs to others survives any number of passes**, and no other object
    changes. -/
theorem survives_attempts (attempts : List Attempt)
    (hkeys : ∀ a ∈ attempts, a.Addresses kind key) (hfound : w.store.object? key = some current)
    (hcurrent : current.HasMetadata) :
    (∀ other, other ≠ key →
        (Attempt.runAll kind attempts w).store.object? other = w.store.object? other)
      ∧ ∃ after, (Attempt.runAll kind attempts w).store.object? key = some after
        ∧ Survives kind (attempts.map (·.desired)) current after
        ∧ Unset (attempts.map (·.desired)) current after := by
  induction attempts generalizing w current with
  | nil =>
    exact ⟨fun _ _ => rfl, current, hfound, .refl hcurrent kind _, fun _ _ _ _ hx => hx⟩
  | cons a attempts ih =>
    obtain ⟨hothers, next, hnext, hsurvives, hunset⟩ :=
      object?_attempt (hkeys a List.mem_cons_self) hfound hcurrent
    obtain ⟨hothers', after, hafter, hsurvives', hunset'⟩ :=
      ih (fun b hb => hkeys b (List.mem_cons_of_mem a hb)) hnext hsurvives.metadata
    exact ⟨fun other hother => (hothers' other hother).trans (hothers other hother), after, hafter,
      hsurvives.trans hsurvives', hunset.trans hunset'⟩

theorem leads_runAll (kind : Kind) (attempts : List Attempt) (w : World) :
    Leads w.store (Attempt.runAll kind attempts w).store := by
  induction attempts generalizing w with
  | nil => exact .refl
  | cons a attempts ih => exact (a.leads_run kind w).trans (ih (a.run kind w).2)

/-! ## §4. The last of any number of passes -/

/-- What a pass does, told from how it ends: only an update changes the object, and
    it gives it a version that was never used and the record of what is desired. -/
structure Passed (desired stored after : Json) (earlier later : Store)
    (r : Except StoreError Outcome) : Prop where
  idle : (∀ outcome, r = .ok outcome → outcome.decision ≠ .update) →
    later.objects = earlier.objects
  version_iff : after.version? ≠ stored.version? ↔
    ∃ outcome, r = .ok outcome ∧ outcome.decision = .update
  fresh : ∀ outcome, r = .ok outcome → outcome.decision = .update →
    ∃ version, after.version? = some version ∧ ¬ earlier.UsedBefore version
  recorded : ∀ outcome, r = .ok outcome → outcome.decision = .update →
    desired.Exact Document.maxDepth → lastApplied? after = some desired

theorem passed_attempt (hreachable : w.store.Reachable) (hkey : a.Addresses kind key)
    (hd : a.desired.Canonical) (hfound : w.store.object? key = some current) :
    ∃ after, (a.run kind w).2.store.object? key = some after
      ∧ Passed a.desired current after w.store (a.run kind w).2.store (a.run kind w).1 := by
  have hends := Attempt.ends hkey hfound
  obtain ⟨name, hname, -⟩ := hkey
  generalize (a.run kind w).1 = r at hends
  cases hends with
  | failed same _ =>
    refine ⟨current, (object?_congr same key).trans hfound, fun _ => same, ?_, ?_, ?_⟩
    · simp
    · intro outcome h
      cases h
    · intro outcome h
      cases h
  | skipped same _ =>
    refine ⟨current, (object?_congr same key).trans hfound, fun _ => same, ?_, ?_, ?_⟩
    · simp
    · intro outcome h hupdate
      cases h
      cases hupdate
    · intro outcome h hupdate
      cases h
      cases hupdate
  | @updated object _ sent stored _ =>
    have hversion : (replaced kind current object
        (.string (versionText (w.store.version + 1)))).version?
          = some (versionText (w.store.version + 1)) :=
      version?_replaced (hasMetadata_of_name ((name_prepareUpdate sent).trans hname)) _ _ _
    have hfresh := not_usedBefore_next w.store
    refine ⟨_, (object?_of_stored stored key).trans (if_pos rfl), ?_, ?_, ?_, ?_⟩
    · intro h
      exact absurd rfl (h _ rfl)
    · refine iff_of_true (fun heq => ?_) ⟨_, rfl, rfl⟩
      -- The version before was in use, and the new one was not.
      exact hfresh (usedBefore_of_stored hreachable hfound (heq.symm.trans hversion))
    · exact fun _ _ _ => ⟨_, hversion, hfresh⟩
    · exact fun _ _ _ hexact => lastApplied?_replaced hname sent hd hexact

/-- **What belongs to others survives**, from any store that can be reached and
    through any passes over an object that is there.  An annotation stays whatever
    it was recorded as, unless one of the desired objects sets it; the record
    itself is the operator's own. -/
theorem others_survive {before : Json} (hreachable : w.store.Reachable)
    (hfound : w.store.object? key = some before) (hmetadata : before.HasMetadata)
    (attempts : List Attempt) (last : Attempt)
    (hkeys : ∀ a ∈ attempts ++ [last], a.Addresses kind key) (hd : last.desired.Canonical) :
    ∃ stored after,
      (Attempt.runAll kind attempts w).store.object? key = some stored
        ∧ (last.run kind (Attempt.runAll kind attempts w)).2.store.object? key = some after
        ∧ Survives kind ((attempts ++ [last]).map (·.desired)) before after
        ∧ (∀ a x, a ≠ lastAppliedKey →
            (∀ attempt ∈ attempts ++ [last], annotated? attempt.desired a = none) →
            annotated? before a = some x → annotated? after a = some x)
        ∧ Passed last.desired stored after (Attempt.runAll kind attempts w).store
            (last.run kind (Attempt.runAll kind attempts w)).2.store
            (last.run kind (Attempt.runAll kind attempts w)).1
        ∧ ∀ other, other ≠ key →
            (last.run kind (Attempt.runAll kind attempts w)).2.store.object? other
              = w.store.object? other := by
  have hlast : last.Addresses kind key := hkeys last (by simp)
  obtain ⟨hothers, stored, hstored, hsurvives, hunset⟩ := survives_attempts attempts
    (fun a ha => hkeys a (List.mem_append_left _ ha)) hfound hmetadata
  obtain ⟨hothers', after, hafter, hsurvives', hunset'⟩ :=
    object?_attempt hlast hstored hsurvives.metadata
  have hreached := (leads_runAll kind attempts w).reachable hreachable
  obtain ⟨after', hafter', hpassed⟩ := passed_attempt hreached hlast hd hstored
  obtain rfl : after = after' := Option.some.inj (hafter.symm.trans hafter')
  refine ⟨stored, after, hstored, hafter, ?_, ?_, hpassed, ?_⟩
  · rw [List.map_append]
    exact hsurvives.trans hsurvives'
  · intro a x ha hset hx
    refine (hunset.trans hunset') a x ha (fun d hmem => ?_) hx
    rw [← List.map_singleton, ← List.map_append] at hmem
    obtain ⟨attempt, hattempt, rfl⟩ := List.mem_map.1 hmem
    exact hset attempt hattempt
  · exact fun other hother => (hothers' other hother).trans (hothers other hother)

end

/-- A service as it is desired. -/
def webService : Json :=
  .object [
    ("metadata", .object [("name", .string "web"), ("namespace", .string "logs")]),
    ("spec", .object [("ports", .array [.object [("port", Json.int32 9200)]])])]

/-- The service as somebody else stored it, annotated and with a status. -/
def foreignService : Json :=
  .object [
    ("metadata", .object [("annotations", .object [("audited", .string "true")]),
      ("name", .string "web"), ("namespace", .string "logs")]),
    ("spec", .object [("ports", .array [])]),
    ("status", .object [("loadBalancer", .object [])])]

/-- The key of the service. -/
def webKey : StoreKey := ⟨.service, "logs", "web"⟩

/-- A store that was empty, and holds that service now. -/
def foreignWorld : World where
  store := (Store.insert .service foreignService
    { stamps := fun _ => ⟨"7f3a", "2024-01-01T00:00:00Z"⟩ }).2

/-- A pass whose update is made to fail. -/
def interrupted : Attempt where
  desired := webService
  failures := [(.update, .service, .transport "down")]

/-- A pass that is not disturbed. -/
def undisturbed : Attempt where
  desired := webService

/-- Annotation, status and address of a service are still there after an update. -/
theorem others_survive_webService :
    foreignWorld.store.Reachable ∧ webService.Canonical
      ∧ (∀ a ∈ [interrupted] ++ [undisturbed], a.Addresses .service webKey)
      ∧ ∃ before, foreignWorld.store.object? webKey = some before ∧ before.HasMetadata
        ∧ ∃ after, (undisturbed.run .service
            (Attempt.runAll .service [interrupted] foreignWorld)).2.store.object? webKey = some after
          ∧ annotated? after "audited" = some (.string "true")
          ∧ after.get? "status" = some (.object [("loadBalancer", .object [])])
          ∧ after.specField? "clusterIP" = some (.string "10.96.0.2") := by
  have hreachable : foreignWorld.store.Reachable :=
    @Reachable.step ⟨{ stamps := fun _ => ⟨"7f3a", "2024-01-01T00:00:00Z"⟩ }, {}⟩ foreignWorld _
      (.empty rfl) .insert
  have hcanonical : webService.Canonical :=
    @canonical_of_read? webService.text webService (by decide +kernel)
  have hdesired : ∀ a ∈ [interrupted] ++ [undisturbed], a.desired = webService := by
    simp [interrupted, undisturbed]
  have hkeys : ∀ a ∈ [interrupted] ++ [undisturbed], a.Addresses .service webKey := by
    intro a ha
    rw [Attempt.Addresses, hdesired a ha]
    exact ⟨"web", rfl, rfl⟩
  obtain ⟨before, hbefore⟩ : ∃ before, foreignWorld.store.object? webKey = some before :=
    ⟨_, rfl⟩
  have hmetadata : before.HasMetadata := by
    cases hbefore
    exact ⟨_, rfl⟩
  obtain ⟨stored, after, -, hafter, hsurvives, hannotations, -, -⟩ :=
    others_survive hreachable hbefore hmetadata [interrupted] undisturbed hkeys hcanonical
  have hspecs : ∀ d ∈ ([interrupted] ++ [undisturbed]).map (·.desired), HasSpec d := by
    intro d hd
    obtain ⟨a, ha, rfl⟩ := List.mem_map.1 hd
    rw [hdesired a ha]
    exact ⟨_, rfl⟩
  cases hbefore
  refine ⟨hreachable, hcanonical, hkeys, _, rfl, hmetadata, after, hafter, ?_,
    hsurvives.status, hsurvives.addresses rfl hspecs "clusterIP" (by decide) _ (by decide +kernel)⟩
  refine hannotations "audited" _ (by decide) (fun a ha => ?_) rfl
  rw [hdesired a ha]
  rfl

end LoggingOperator.Convergence
