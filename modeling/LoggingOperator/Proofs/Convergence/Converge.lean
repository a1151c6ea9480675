/-
  LoggingOperator.Proofs.Convergence.Converge — ONE READ AND AT MOST ONE WRITE.

  Whatever happens to its calls, `converge` ends in one of four ways
  (`Converges`): a call failed as the environment made it, the desired object
  was refused before anything was sent, the stored object was left alone, or
  it was written.  All that is known of `converge` follows from these four.

  Where nothing fails, a pass that succeeds leaves the object in sync, and
  the next one finds nothing to do (`converge_settles`).
-/
import LoggingOperator.Convergence.Converge
import LoggingOperator.Proofs.Convergence.Written
import LoggingOperator.Proofs.Program.Environment

namespace LoggingOperator

open Program (World Environment Runs calm)

namespace Store

/-! ## §1. Reading and writing one object -/

@[simp] theorem objects_noted (call : StoreCall) (name : String) (s : Store) :
    (s.noted call name).objects = s.objects := rfl

@[simp] theorem object?_noted (key : StoreKey) (call : StoreCall) (name : String) (s : Store) :
    (s.noted call name).object? key = s.object? key := rfl

theorem object?_congr {s t : Store} (h : t.objects = s.objects) (key : StoreKey) :
    t.object? key = s.object? key := by
  rw [object?, object?, h]

/-- What is found where an object was put. -/
theorem object?_of_stored {s s' : Store} {k : StoreKey} {object : Json}
    (stored : s'.objects = Keyed.insert k object s.objects) (key : StoreKey) :
    s'.object? key = if k = key then some object else s.object? key := by
  rw [object?, stored]
  exact Keyed.get?_insert key k object s.objects

/-- Where there are no objects, nothing is found. -/
theorem object?_of_empty {s : Store} (h : s.objects = []) (key : StoreKey) :
    s.object? key = none := by
  rw [object?, h]
  rfl

/-- The records of writes after one more call. -/
theorem writes_noted (call : StoreCall) (name : String) (s : Store) :
    (s.noted call name).writes
      = s.writes ++ if call.op.isWrite then [⟨call.op, call.kind, name⟩] else [] := by
  unfold writes noted
  rw [List.filter_append]
  congr 1
  cases h : call.op.isWrite <;> simp [h]

/-- Creating what is not there. -/
theorem create_of_absent {kind : Kind} {key : StoreKey} {s : Store}
    (h : s.object? key = none) (object : Json) :
    s.create kind key object
      = (.ok (s.stampNew kind object).1, (s.stampNew kind object).2.put key
          (s.stampNew kind object).1) := by
  simp only [create, h]

theorem create_of_present {kind : Kind} {key : StoreKey} {s : Store} {current : Json}
    (h : s.object? key = some current) (object : Json) :
    s.create kind key object = (.error (.alreadyExists kind key.name), s) := by
  simp only [create, h]

/-- Updating what is there and was not written since. -/
theorem update_of_present {kind : Kind} {key : StoreKey} {s : Store} {current object : Json}
    (h : s.object? key = some current) (hv : checkVersion object current = .ok ()) :
    s.update kind key object
      = (.ok (replaced kind current object s.bump.1),
        s.bump.2.put key (replaced kind current object s.bump.1)) := by
  simp only [update, h, hv]
  rfl

end Store

namespace Convergence

open Json Store

/-! ## §2. The four ends of a pass over one object -/

/-- The operation that a decision asks for, if any. -/
def Decision.op? : Decision → Option StoreOp
  | .create => some .create
  | .update => some .update
  | .skip => none

/-- The record of the write that an outcome tells of. -/
def Outcome.writes (outcome : Outcome) : List StoreRecord :=
  match outcome.decision.op? with
  | some op => [⟨op, outcome.kind, outcome.name⟩]
  | none => []

/-- Under what the desired object is stored. -/
def keyOf (kind : Kind) (desired : Json) (name : String) : StoreKey :=
  StoreKey.of kind desired.namespace? name

/-- How a pass over one object ends. -/
inductive Converges (env : Environment) (kind : Kind) (desired : Json) (s : Store) :
    Except StoreError Outcome → Store → Prop
  /-- A call failed as the environment made it: the read, or a write that was needed. -/
  | injected {e : StoreError} {s' : Store} (may : env.injects e) (same : s'.objects = s.objects)
    (idle : s'.writes = s.writes ∨ ∃ name, desired.name = .ok name
      ∧ decide kind desired (s.object? (keyOf kind desired name)) ≠ .skip) :
    Converges env kind desired s (.error e) s'
  /-- The desired object has no name, or should be sent and cannot be. -/
  | refused {e : StoreError} {s' : Store}
    (why : desired.name = .error e ∨ ∃ name, desired.name = .ok name
      ∧ decide kind desired (s.object? (keyOf kind desired name)) ≠ .skip
      ∧ withLastApplied desired = .error e)
    (same : s'.objects = s.objects) (silent : s'.writes = s.writes) :
    Converges env kind desired s (.error e) s'
  /-- The stored object is left alone. -/
  | skipped {name : String} {stored : Json} {s' : Store} (named : desired.name = .ok name)
    (found : s.object? (keyOf kind desired name) = some stored)
    (decided : decide kind desired (some stored) = .skip)
    (same : s'.objects = s.objects) (silent : s'.writes = s.writes) :
    Converges env kind desired s (.ok ⟨kind, name, .skip⟩) s'
  /-- The object is written. -/
  | wrote {name : String} {decision : Decision} {after : Json} {s' : Store}
    (named : desired.name = .ok name)
    (decided : decide kind desired (s.object? (keyOf kind desired name)) = decision)
    (writes : decision ≠ .skip)
    (made : Wrote kind desired (s.object? (keyOf kind desired name)) after)
    (stored : s'.objects = Keyed.insert (keyOf kind desired name) after s.objects)
    (noted : s'.writes = s.writes ++ Outcome.writes ⟨kind, name, decision⟩) :
    Converges env kind desired s (.ok ⟨kind, name, decision⟩) s'

theorem decide_some_ne_create (kind : Kind) (desired stored : Json) :
    decide kind desired (some stored) ≠ .create := by
  rw [decide]
  split
  · simp
  · split <;> simp

theorem prepareUpdate_of_withLastApplied {desired recorded : Json}
    (h : withLastApplied desired = .ok recorded) (kind : Kind) (stored : Json) :
    ∃ object, prepareUpdate kind desired stored = .ok object := by
  by_cases hkind : kind = .service
  · exact ⟨_, by rw [prepareUpdate, h]; simp only [if_pos hkind]; rfl⟩
  · exact ⟨_, by rw [prepareUpdate, h]; simp only [if_neg hkind]; rfl⟩

theorem prepareUpdate_error {kind : Kind} {desired : Json} {e : StoreError}
    (h : withLastApplied desired = .error e) (stored : Json) :
    prepareUpdate kind desired stored = .error e := by
  rw [prepareUpdate, h]
  rfl

/-- The store carries out the write of the desired object: it has to be there, or
    not, as the call expects. -/
def Accepts (kind : Kind) (desired : Json) (name : String) (call : StoreCall) (s : Store) : Prop :=
  ∃ after next, s.act call (StoreKey.of call.kind call.ns? name) = (.ok after, next)
    ∧ Wrote kind desired (s.object? (keyOf kind desired name)) after
    ∧ next.objects = Keyed.insert (keyOf kind desired name) after s.objects
    ∧ next.calls = s.calls

theorem accepts_create {kind : Kind} {desired object : Json} {name : String} {s : Store}
    (h : withLastApplied desired = .ok object)
    (habsent : s.object? (keyOf kind desired name) = none) :
    Accepts kind desired name (.create kind object) s := by
  have hframe := stampNew_frame kind object s
  refine ⟨(s.stampNew kind object).1,
    (s.stampNew kind object).2.put (keyOf kind desired name) (s.stampNew kind object).1,
    ?_, ?_, ?_, hframe.2.1⟩
  · show Store.create kind (StoreKey.of kind object.namespace? name) object s = _
    rw [namespace?_withLastApplied h]
    exact create_of_absent habsent object
  · rw [habsent]
    exact .created s h
  · show Keyed.insert _ _ (s.stampNew kind object).2.objects = _
    rw [hframe.1]

theorem accepts_update {kind : Kind} {desired stored object : Json} {name : String} {s : Store}
    (h : prepareUpdate kind desired stored = .ok object)
    (hfound : s.object? (keyOf kind desired name) = some stored) :
    Accepts kind desired name (.update kind object) s := by
  refine ⟨replaced kind stored object s.bump.1,
    s.bump.2.put (keyOf kind desired name) (replaced kind stored object s.bump.1), ?_, ?_, rfl, rfl⟩
  · show Store.update kind (StoreKey.of kind object.namespace? name) object s = _
    rw [namespace?_prepareUpdate h]
    exact update_of_present hfound (checkVersion_prepareUpdate h)
  · rw [hfound]
    exact .updated _ h

/-- What may be asked for: nothing, or a write that the store accepts. -/
theorem writeFor_eq_ok {kind : Kind} {desired : Json} {name : String} {s : Store}
    {call? : Option StoreCall} (hname : desired.name = .ok name)
    (h : writeFor kind desired (s.object? (keyOf kind desired name)) = .ok call?) :
    (call? = none ∧ ∃ stored, s.object? (keyOf kind desired name) = some stored
      ∧ decide kind desired (some stored) = .skip)
    ∨ ∃ call, call? = some call ∧ call.name = .ok name ∧ call.kind = kind
      ∧ (decide kind desired (s.object? (keyOf kind desired name))).op? = some call.op
      ∧ ∀ t : Store, t.objects = s.objects → Accepts kind desired name call t := by
  unfold writeFor at h
  -- A create where there is no object, an update or nothing where there is one.
  cases hfound : s.object? (keyOf kind desired name) with
  | none =>
    rw [hfound] at h
    have hdecide : decide kind desired none = .create := rfl
    simp only [hdecide, prepareCreate] at h
    cases hr : withLastApplied desired with
    | error e =>
      rw [hr] at h
      cases h
    | ok object =>
      rw [hr] at h
      cases h
      refine Or.inr ⟨.create kind object, rfl, (name_withLastApplied hr).trans hname, rfl, rfl, ?_⟩
      intro t ht
      exact accepts_create hr ((object?_congr ht _).trans hfound)
  | some stored =>
    rw [hfound] at h
    cases hdecide : decide kind desired (some stored) with
    | create => exact absurd hdecide (decide_some_ne_create kind desired stored)
    | skip =>
      simp only [hdecide] at h
      cases h
      exact Or.inl ⟨rfl, stored, rfl, hdecide⟩
    | update =>
      simp only [hdecide] at h
      cases hp : prepareUpdate kind desired stored with
      | error e =>
        rw [hp] at h
        cases h
      | ok object =>
        rw [hp] at h
        cases h
        refine Or.inr ⟨.update kind object, rfl, (name_prepareUpdate hp).trans hname, rfl, rfl, ?_⟩
        intro t ht
        exact accepts_update hp ((object?_congr ht _).trans hfound)

/-- Nothing is asked for only if the desired object cannot be sent. -/
theorem writeFor_eq_error {kind : Kind} {desired : Json} {stored : Option Json} {e : StoreError}
    (h : writeFor kind desired stored = .error e) :
    decide kind desired stored ≠ .skip ∧ withLastApplied desired = .error e := by
  cases hr : withLastApplied desired with
  | error e' =>
    unfold writeFor at h
    split at h
    · next hdecide =>
      rw [prepareCreate, hr] at h
      cases h
      exact ⟨by simp [hdecide], rfl⟩
    · next stored' hdecide =>
      rw [prepareUpdate_error hr] at h
      cases h
      exact ⟨by simp [hdecide], rfl⟩
    · cases h
  | ok recorded =>
    unfold writeFor at h
    split at h
    · rw [prepareCreate, hr] at h
      cases h
    · next stored' _ =>
      obtain ⟨object, hobject⟩ := prepareUpdate_of_withLastApplied hr kind stored'
      rw [hobject] at h
      cases h
    · cases h

/-- A write that is sent is carried out, unless the environment makes it fail. -/
theorem runs_settle {env : Environment} {kind : Kind} {desired : Json} {name : String} {s : Store}
    {w w' : World} {r : Except StoreError Outcome} (hname : desired.name = .ok name)
    (hobjects : w.store.objects = s.objects) (hsilent : w.store.writes = s.writes)
    (h : Runs env (settle kind name desired (s.object? (keyOf kind desired name))) w r w') :
    Converges env kind desired s r w'.store := by
  unfold settle at h
  cases hwrite : writeFor kind desired (s.object? (keyOf kind desired name)) with
  | error e =>
    rw [hwrite] at h
    obtain ⟨rfl, rfl⟩ := Program.runs_fail_iff.1 h
    have ⟨hwrites, hrefused⟩ := writeFor_eq_error hwrite
    exact .refused (Or.inr ⟨name, hname, hwrites, hrefused⟩) hobjects hsilent
  | ok call? =>
    rw [hwrite] at h
    -- Nothing is asked for, or one call that the store accepts.
    rcases writeFor_eq_ok hname hwrite with
      ⟨rfl, stored, hfound, hdecide⟩ | ⟨call, rfl, hcall, hkind, hop, haccepts⟩
    · obtain ⟨rfl, rfl⟩ := Program.runs_done_iff.1 h
      rw [hfound, hdecide]
      exact .skipped hname hfound hdecide hobjects hsilent
    · rcases (Program.runs_store_iff hcall).1 h with ⟨e, he, hrest⟩ | hrest
      · obtain ⟨rfl, rfl⟩ := Program.runs_fail_iff.1 hrest
        refine .injected he hobjects (Or.inr ⟨name, hname, fun hskip => ?_⟩)
        rw [hskip] at hop
        cases hop
      · obtain ⟨after, next, hact, hmade, hnext, hcalls⟩ :=
          haccepts (w.store.noted call name) hobjects
        rw [hact] at hrest
        obtain ⟨rfl, rfl⟩ := Program.runs_done_iff.1 hrest
        -- The call was noted before it was carried out, as a write of what was decided.
        have hisWrite : call.op.isWrite = true := by
          cases hdecision : decide kind desired (s.object? (keyOf kind desired name)) <;>
            cases hcallOp : call.op <;> simp_all [Decision.op?, StoreOp.isWrite]
        have hnoted : next.writes = s.writes ++ [⟨call.op, kind, name⟩] := by
          rw [Store.writes, hcalls]
          show (w.store.noted call name).writes = _
          rw [writes_noted, if_pos hisWrite, hsilent, hkind]
        have hmade' : Wrote kind desired (s.object? (keyOf kind desired name)) after := by
          rwa [object?_noted, object?_congr hobjects] at hmade
        have hstored : next.objects = Keyed.insert (keyOf kind desired name) after s.objects := by
          rw [hnext, objects_noted, hobjects]
        refine .wrote hname rfl ?_ hmade' hstored ?_
        · intro hskip
          rw [hskip] at hop
          cases hop
        · show next.writes = _
          rw [hnoted]
          simp only [Outcome.writes, hop]

/-- An object that is there is not created: the create fails and changes nothing. -/
theorem runs_settle_of_present {env : Environment} {kind : Kind} {desired current : Json}
    {name : String} {w w' : World} {r : Except StoreError Outcome} (hname : desired.name = .ok name)
    (hfound : w.store.object? (keyOf kind desired name) = some current)
    (h : Runs env (settle kind name desired none) w r w') :
    (∃ e, r = .error e) ∧ w'.store.objects = w.store.objects
      ∧ w'.store.version = w.store.version := by
  unfold settle at h
  have hwrite : writeFor kind desired none
      = (withLastApplied desired).map fun object => some (.create kind object) := rfl
  rw [hwrite] at h
  cases hr : withLastApplied desired with
  | error e =>
    rw [hr] at h
    obtain ⟨rfl, rfl⟩ := Program.runs_fail_iff.1 h
    exact ⟨⟨_, rfl⟩, rfl, rfl⟩
  | ok object =>
    rw [hr] at h
    have hcall : (StoreCall.create kind object).name = .ok name :=
      (name_withLastApplied hr).trans hname
    rcases (Program.runs_store_iff hcall).1 h with ⟨e, -, hrest⟩ | hrest
    · obtain ⟨rfl, rfl⟩ := Program.runs_fail_iff.1 hrest
      exact ⟨⟨_, rfl⟩, rfl, rfl⟩
    -- Carried out, the create is refused by the object that is there.
    · have hact : (w.store.noted (.create kind object) name).act (.create kind object)
          (StoreKey.of (StoreCall.create kind object).kind (StoreCall.create kind object).ns? name)
          = (.error (.alreadyExists kind name), w.store.noted (.create kind object) name) := by
        show Store.create kind (StoreKey.of kind object.namespace? name) object _ = _
        rw [namespace?_withLastApplied hr]
        exact create_of_present (s := w.store.noted (.create kind object) name) hfound object
      rw [hact] at hrest
      obtain ⟨rfl, rfl⟩ := Program.runs_fail_iff.1 hrest
      exact ⟨⟨_, rfl⟩, rfl, rfl⟩

/-- A pass over one object ends in one of four ways, or it was told that an object
    that is there were not. -/
theorem runs_converge_or {env : Environment} {kind : Kind} {desired : Json} {w w' : World}
    {r : Except StoreError Outcome} (h : Runs env (converge kind desired) w r w') :
    Converges env kind desired w.store r w'.store
      ∨ ∃ e name current between, env.injects e ∧ e.isNotFound = true
        ∧ desired.name = .ok name
        ∧ between.store.object? (keyOf kind desired name) = some current
        ∧ Runs env (settle kind name desired none) between r w' := by
  unfold converge at h
  cases hname : desired.name with
  | error e =>
    rw [hname] at h
    obtain ⟨rfl, rfl⟩ := Program.runs_fail_iff.1 h
    exact Or.inl (.refused (Or.inl hname) rfl rfl)
  | ok name =>
    rw [hname] at h
    have hsilent : (w.store.noted (.get kind name desired.namespace?) name).writes
        = w.store.writes := by
      rw [writes_noted, if_neg (by simp [StoreCall.op, StoreOp.isWrite]), List.append_nil]
    have hcall : (StoreCall.get kind name desired.namespace?).name = .ok name := rfl
    -- A read that fails ends the pass, unless it says that there is no object.
    rcases (Program.runs_store_iff hcall).1 h with ⟨e, he, hrest⟩ | hrest
    · cases hnotFound : e.isNotFound with
      | false =>
        have hread : stored? (.error e) = .error e := by
          rw [stored?, hnotFound]
          rfl
        rw [hread] at hrest
        obtain ⟨rfl, rfl⟩ := Program.runs_fail_iff.1 hrest
        exact Or.inl (.injected he rfl (Or.inl hsilent))
      | true =>
        have hread : stored? (.error e) = .ok none := by
          rw [stored?, hnotFound]
          rfl
        rw [hread] at hrest
        -- What was said is true or not; if it is true, the pass goes on as it should.
        cases hfound : w.store.object? (keyOf kind desired name) with
        | some current =>
          exact Or.inr ⟨e, name, current,
            ⟨w.store.noted (.get kind name desired.namespace?) name, w.cluster⟩,
            he, hnotFound, rfl, hfound, hrest⟩
        | none =>
          change Runs env (settle kind name desired none) _ r w' at hrest
          rw [← hfound] at hrest
          exact Or.inl (runs_settle
            (w := ⟨w.store.noted (.get kind name desired.namespace?) name, w.cluster⟩)
            hname (objects_noted _ _ _) hsilent hrest)
    · have hread : stored? ((w.store.noted (.get kind name desired.namespace?) name).act
            (.get kind name desired.namespace?) (keyOf kind desired name)).1
          = .ok (w.store.object? (keyOf kind desired name)) := by
        show stored? (Store.get kind (keyOf kind desired name) w.store) = _
        unfold Store.get
        cases w.store.object? (keyOf kind desired name) <;> rfl
      rw [show StoreKey.of (StoreCall.get kind name desired.namespace?).kind
          (StoreCall.get kind name desired.namespace?).ns? name = keyOf kind desired name from rfl,
        hread] at hrest
      exact Or.inl (runs_settle
        (w := ⟨w.store.noted (.get kind name desired.namespace?) name, w.cluster⟩)
        hname (objects_noted _ _ _) hsilent hrest)

/-- **Whatever happens to its calls, a pass over one object ends in one of four
    ways**, if no read is made to find nothing. -/
theorem runs_converge {env : Environment} (hnotFound : ∀ e, env.injects e → e.isNotFound = false)
    {kind : Kind} {desired : Json} {w w' : World} {r : Except StoreError Outcome}
    (h : Runs env (converge kind desired) w r w') :
    Converges env kind desired w.store r w'.store := by
  rcases runs_converge_or h with hends | ⟨e, -, -, -, he, hmissing, -⟩
  · exact hends
  · rw [hnotFound e he] at hmissing
    cases hmissing

/-- Whatever happens to its calls, a pass that succeeds left the object alone or wrote it. -/
theorem runs_converge_ok {env : Environment} {kind : Kind} {desired : Json} {w w' : World}
    {outcome : Outcome} (h : Runs env (converge kind desired) w (.ok outcome) w') :
    Converges env kind desired w.store (.ok outcome) w'.store := by
  rcases runs_converge_or h with hends | ⟨-, _, _, _, -, -, hname, hfound, hsettle⟩
  · exact hends
  · obtain ⟨⟨e, herror⟩, -⟩ := runs_settle_of_present hname hfound hsettle
    cases herror

/-! ## §3. What a pass leaves -/

namespace Converges

variable {env : Environment} {kind : Kind} {desired : Json} {s s' : Store}
  {r : Except StoreError Outcome}

/-- **What a pass that succeeds leaves is in sync and needs no other pass.** -/
theorem settled {outcome : Outcome} (h : Converges env kind desired s (.ok outcome) s')
    (hd : desired.Canonical) :
    ∃ stored, desired.name = .ok outcome.name
      ∧ s'.object? (keyOf kind desired outcome.name) = some stored
      ∧ InSync kind desired stored ∧ decide kind desired (some stored) = .skip := by
  cases h with
  | skipped named found decided same _ =>
    refine ⟨_, named, (object?_congr same _).trans found, ?_, decided⟩
    exact (contains_comparable_iff hd).1 (decide_skip_iff.1 decided).1
  | wrote named _ _ made stored _ =>
    refine ⟨_, named, ?_, made.inSync, made.skip hd⟩
    rw [object?, stored, Keyed.get?_insert, if_pos rfl]

end Converges

/-- Where the object is settled and nothing fails, a pass does nothing. -/
theorem run_converge_of_settled {kind : Kind} {desired stored : Json} {name : String} {w : World}
    (hquiet : w.store.failures = []) (hname : desired.name = .ok name)
    (hfound : w.store.object? (keyOf kind desired name) = some stored)
    (hskip : decide kind desired (some stored) = .skip) :
    ((converge kind desired).run w).1 = .ok ⟨kind, name, .skip⟩
      ∧ ((converge kind desired).run w).2.store.objects = w.store.objects
      ∧ ((converge kind desired).run w).2.store.writes = w.store.writes := by
  have hruns := runs_converge (by simp [calm])
    (Program.runs_calm (converge kind desired) hquiet)
  -- Of the four ends only the skip agrees with the decision.
  generalize ((converge kind desired).run w).1 = r at hruns
  cases hruns with
  | injected may _ _ => exact may.elim
  | refused why _ _ =>
    rcases why with h | ⟨name', h, hwrites, -⟩
    · rw [hname] at h
      cases h
    · rw [hname] at h
      cases h
      exact absurd (hfound ▸ hskip) hwrites
  | skipped named _ _ same silent =>
    rw [hname] at named
    cases named
    exact ⟨rfl, same, silent⟩
  | wrote named decided writes _ _ _ =>
    rw [hname] at named
    cases named
    rw [hfound, hskip] at decided
    exact absurd decided.symm writes

/-! ## §4. Convergence of one object -/

/-- A value without parts. -/
def isScalar : Json → Bool
  | .array _ => false
  | .object _ => false
  | _ => true

/-- The stored value has every scalar of the desired one at its place, but that
    a zero value may be absent or `null`; and every list on the way to a scalar
    has its length. -/
def HoldsScalars (desired stored : Json) : Prop :=
  ∀ p x, desired.walk p = some x → isScalar x = true → x ≠ .null →
    ((∃ y, stored.walk p = some y ∧ (x == y) = true)
      ∨ x.isZero = true ∧ (stored.walk p = none ∨ stored.walk p = some .null))
    ∧ ∀ q items, q <+: p → desired.walk q = some (.array items) → items ≠ [] →
        ∃ others, stored.walk q = some (.array others) ∧ others.length = items.length

/-- What is admitted for a scalar is an equal one, or nothing for a zero. -/
theorem scalar_of_admits {x stored : Json} {p : Path} (hscalar : isScalar x = true)
    (hnull : x ≠ .null) (h : x.admits (stored.head? p) = true) :
    (∃ y, stored.walk p = some y ∧ (x == y) = true)
      ∨ x.isZero = true ∧ (stored.walk p = none ∨ stored.walk p = some .null) := by
  rw [head?] at h
  cases hy : stored.walk p with
  | none =>
    rw [hy] at h
    exact Or.inr ⟨h, Or.inl rfl⟩
  | some y =>
    rw [hy] at h
    cases y with
    | null => exact Or.inr ⟨h, Or.inr rfl⟩
    | _ =>
      refine Or.inl ⟨_, rfl, ?_⟩
      cases x <;> simp_all [isScalar, admits, head, BEq.beq, same, alikeWith]

/-- In sync means that every scalar is held. -/
theorem InSync.holdsScalars {kind : Kind} {desired stored : Json}
    (h : InSync kind desired stored) :
    HoldsScalars (comparable kind desired) (comparable kind stored) := by
  intro p x hx hscalar hnull
  refine ⟨scalar_of_admits hscalar hnull (h p x hx), ?_⟩
  intro q items _ hq hne
  -- A list on the way is admitted too, and one that is not empty admits its length alone.
  have hadmits := h q _ hq
  cases hhead : (comparable kind stored).head? q with
  | none =>
    rw [hhead] at hadmits
    exact absurd (List.isEmpty_iff.1 hadmits) hne
  | some found =>
    rw [hhead] at hadmits
    have hfound := admits_array hadmits hne
    obtain ⟨y, hy, hyhead⟩ := head?_eq_some.1 hhead
    rw [hfound] at hyhead
    obtain ⟨others, rfl, hlen⟩ := head_eq_array.1 hyhead
    exact ⟨others, hy, hlen⟩

/-- What a pass over a desired object ends with where nothing fails: nothing was
    written, or the outcome says what was, the stored object holds everything
    desired, and another pass finds nothing to do and changes nothing. -/
def Settles (kind : Kind) (desired : Json) (before : World) :
    Except StoreError Outcome × World → Prop
  | (.error _, after) =>
    after.store.writes = before.store.writes ∧ after.store.objects = before.store.objects
  | (.ok outcome, after) =>
    outcome.kind = kind ∧ desired.name = .ok outcome.name
      ∧ after.store.writes = before.store.writes ++ outcome.writes
      ∧ (∃ stored, after.store.object? (keyOf kind desired outcome.name) = some stored
        ∧ HoldsScalars (comparable kind desired) (comparable kind stored))
      ∧ ((converge kind desired).run after).1 = .ok ⟨kind, outcome.name, .skip⟩
      ∧ ((converge kind desired).run after).2.store.objects = after.store.objects

/-- **Convergence of one object**, from any state of the store in which no call
    is made to fail.  The desired object is a JSON value, so its tree is
    canonical. -/
theorem converge_settles (kind : Kind) {desired : Json} (hd : desired.Canonical) {w : World}
    (hquiet : w.store.failures = []) : Settles kind desired w ((converge kind desired).run w) := by
  have hruns := runs_converge (by simp [calm])
    (Program.runs_calm (converge kind desired) hquiet)
  have hquiet' := Program.failures_run (converge kind desired) hquiet
  -- The second run starts where the first one ended, with the object settled.
  generalize hrun : (converge kind desired).run w = run at hruns hquiet'
  obtain ⟨r, after⟩ := run
  cases r with
  | error e =>
    cases hruns with
    | injected may _ _ => exact may.elim
    | refused _ same silent => exact ⟨silent, same⟩
  | ok outcome =>
    obtain ⟨stored, hname, hfound, hsync, hskip⟩ := hruns.settled hd
    have hagain := run_converge_of_settled hquiet' hname hfound hskip
    refine ⟨?_, hname, ?_, ⟨stored, hfound, hsync.holdsScalars⟩, hagain.1, hagain.2.1⟩
    · cases hruns with
      | skipped => rfl
      | wrote => rfl
    · cases hruns with
      | skipped _ _ _ _ silent =>
        show after.store.writes = w.store.writes ++ []
        rw [List.append_nil]
        exact silent
      | wrote _ _ _ _ _ noted => exact noted

/-- A config map with one entry. -/
def settingsMap : Json :=
  .object [
    ("data", .object [("level", .string "info")]),
    ("metadata", .object [("name", .string "settings"), ("namespace", .string "logs")])]

/-- A store that holds the config map with another entry, and an older one
    under a key that is no longer declared. -/
def driftedWorld : World where
  store := {
    objects := [(⟨.configMap, "logs", "settings"⟩, .object [
      ("data", .object [("colour", .string "red"), ("level", .string "debug")]),
      ("metadata", .object [("name", .string "settings"), ("namespace", .string "logs")])])]
    stamps := fun _ => ⟨"uid", "2024-01-01T00:00:00Z"⟩ }

theorem canonical_settingsMap : settingsMap.Canonical := by
  have hpair : ∀ {k l : String} {x y : Json}, k < l → x.Canonical → y.Canonical →
      Canonical (.object [(k, x), (l, y)]) := by
    intro k l x y hkl hx hy
    exact canonical_object.2 ⟨List.pairwise_pair.2 hkl,
      List.forall_mem_cons.2 ⟨hx, List.forall_mem_singleton.2 hy⟩⟩
  have hlevel : Canonical (.object [("level", .string "info")]) :=
    canonical_object.2 ⟨List.pairwise_singleton _ _, List.forall_mem_singleton.2 trivial⟩
  exact hpair (by decide) hlevel (hpair (by decide) trivial trivial)

/-- Convergence of a config map that drifted. -/
theorem converge_settles_settingsMap :
    settingsMap.Canonical ∧ driftedWorld.store.failures = []
      ∧ Settles .configMap settingsMap driftedWorld
        ((converge .configMap settingsMap).run driftedWorld) :=
  ⟨canonical_settingsMap, rfl, converge_settles .configMap canonical_settingsMap rfl⟩

end Convergence

end LoggingOperator
